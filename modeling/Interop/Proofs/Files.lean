import Interop.Files

namespace Interop.Files

variable {fs : Files} {place : Place} {name path : Text.Loose} {names : List Text.Loose}
  {content : List UInt8}

def Reaches (fs : Files) : Place → Prop
  | .file content => ∃ entry ∈ fs.files, entry.2 = content
  | .above | .directory _ => True

theorem lookUp_reaches {p : List Text.Loose} (h : fs.lookUp p = .ok place) : fs.Reaches place := by
  rw [lookUp] at h
  split at h
  · cases h
    trivial
  · split at h
    · next entry found hfound =>
        cases h
        exact ⟨_, List.mem_of_find?_eq_some hfound, rfl⟩
    · cases h

theorem enter_reaches {next : Place} (h : fs.enter place name = .ok next) : fs.Reaches next := by
  cases place with
  | file c => cases h
  | above =>
      rw [enter] at h
      split at h
      · cases h
        trivial
      · cases hc : checkName name <;> rw [hc] at h <;> cases h
  | directory p =>
      rw [enter] at h
      split at h
      · cases h
        trivial
      · split at h
        · split at h <;> cases h <;> trivial
        · cases hc : checkName name with
          | error e => rw [hc] at h; cases h
          | ok u => rw [hc] at h; exact lookUp_reaches h

theorem foldlM_reaches (hplace : fs.Reaches place) {last : Place}
    (h : names.foldlM fs.enter place = .ok last) : fs.Reaches last := by
  induction names generalizing place with
  | nil => cases h; exact hplace
  | cons name names ih =>
      rw [List.foldlM_cons] at h
      cases hn : fs.enter place name with
      | error e => rw [hn] at h; cases h
      | ok next => rw [hn] at h; exact ih (enter_reaches hn) h

theorem walk_reaches (h : fs.walk path = .ok place) : fs.Reaches place := by
  rw [walk] at h
  split at h
  · cases h
  · have habove : fs.Reaches .above := trivial
    exact foldlM_reaches habove h
  · have hroot : fs.Reaches (.directory []) := trivial
    exact foldlM_reaches hroot h

theorem exists_of_load (h : fs.load path = .ok content) :
    ∃ entry ∈ fs.files, entry.2 = content := by
  rw [load] at h
  split at h
  · cases h
  · split at h
    · cases h
    · cases hw : fs.walk path with
      | error e => rw [hw] at h; cases h
      | ok place =>
          rw [hw] at h
          cases place with
          | file c => cases h; exact walk_reaches hw
          | directory p => cases h
          | above => cases h

end Interop.Files
