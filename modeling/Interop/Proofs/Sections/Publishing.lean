import Interop.Sections.Mailbox
import Interop.Storage
import Interop.Proofs.Sections.Memory

namespace Interop.Sections

namespace Extent

def storeAt (e : Extent) (address : UInt64) (memory : Storage) : Storage :=
  (memory.store address.toNat 8 e.start.toNat).store (address.toNat + 8) 8 e.size.toNat

def fetch (address : UInt64) (memory : Storage) : Extent :=
  ⟨.ofNat (memory.load address.toNat 8), .ofNat (memory.load (address.toNat + 8) 8)⟩

def fetch? (address : UInt64) (memory : Storage) : Option Extent :=
  if address.toNat + width ≤ memory.size then some (fetch address memory) else none

variable {address : UInt64} {memory : Storage}

theorem size_storeAt (e : Extent) : (e.storeAt address memory).size = memory.size := by
  rw [storeAt, Storage.store, Storage.size_write, Storage.store, Storage.size_write]

theorem fetch_storeAt (e : Extent) (h : address.toNat + width ≤ memory.size) :
    fetch address (e.storeAt address memory) = e := by
  have hword : ∀ n : UInt64, UInt64.ofNat (n.toNat % LittleEndian.span 8) = n := by
    intro n
    rw [show LittleEndian.span 8 = UInt64.size from rfl, Nat.mod_eq_of_lt n.toNat_lt,
      UInt64.ofNat_toNat]
  rw [width] at h
  have hsize : (memory.store address.toNat 8 e.start.toNat).size = memory.size :=
    Storage.size_write ..
  have hstart : (e.storeAt address memory).load address.toNat 8 =
      e.start.toNat % LittleEndian.span 8 := by
    rw [storeAt, Storage.load_store_disjoint _ _ _ _ _ _ (by omega),
      Storage.load_store _ _ _ _ (by omega)]
  have hbehind : (e.storeAt address memory).load (address.toNat + 8) 8 =
      e.size.toNat % LittleEndian.span 8 := by
    rw [storeAt, Storage.load_store _ _ _ _ (by omega)]
  rw [fetch, hstart, hbehind, hword, hword]

theorem byte_storeAt (e : Extent) {i : Nat}
    (hi : i < address.toNat ∨ address.toNat + width ≤ i) :
    (e.storeAt address memory).byte i = memory.byte i := by
  rw [width] at hi
  rw [storeAt, Storage.store, Storage.byte_write, LittleEndian.length_encode, if_neg (by omega),
    Storage.store, Storage.byte_write, LittleEndian.length_encode, if_neg (by omega)]

end Extent

/-- What is done with a mailbox. A section may come from any provider, and a read goes through one
of the addresses that were handed out. -/
inductive Use
  | load
  | publish (e : Extent)
  | publishFrom (s : Section)
  | read (k : Nat)

inductive Answer
  | held (e : Extent)
  | handed (address : UInt64)
  | refused (cause : Unresolvable)
  | found (e : Option Extent)

/-- Anything that holds an extent. Publishing from a section can fail, and what was stored up to
there then stays. -/
structure Place (σ : Type) where
  load : σ → Extent
  publish : Extent → StateT σ Logged UInt64
  publishFrom : Section → ExceptT Unresolvable (StateT σ Logged) UInt64
  readAt? : UInt64 → σ → Option Extent

structure Session (σ : Type) where
  state : σ
  handed : List UInt64

def Mailbox.place : Place Mailbox where
  load := Mailbox.load
  publish e box := pure ((box.publish e).2, (box.publish e).1)
  publishFrom s box := do
    match ← box.publishFrom s with
    | .ok (next, address) => return (.ok address, next)
    | .error cause => return (.error cause, box)
  readAt? address box := box.readAt? address

namespace Place

def inMemory (address : UInt64) : Place Storage where
  load := Extent.fetch address
  publish := put
  publishFrom s := do
    match ← (s.resolve : Logged (Except Unresolvable Extent)) with
    | .error cause => throw cause
    | .ok e => put e
  readAt? := Extent.fetch?
where
  put (e : Extent) : StateT Storage Logged UInt64 := do
    modify (e.storeAt address)
    return address

variable {σ : Type}

def use (p : Place σ) (s : Session σ) : Use → Logged (Session σ × Answer)
  | .load => pure (s, .held (p.load s.state))
  | .publish e => do
    let (address, state) ← p.publish e s.state
    return (⟨state, s.handed ++ [address]⟩, .handed address)
  | .publishFrom origin => do
    match ← p.publishFrom origin s.state with
    | (.ok address, state) => return (⟨state, s.handed ++ [address]⟩, .handed address)
    | (.error cause, state) => return (⟨state, s.handed⟩, .refused cause)
  | .read k => pure (s, .found (s.handed[k]?.bind (p.readAt? · s.state)))

def useAll (p : Place σ) (s : Session σ) : List Use → Logged (Session σ × List Answer)
  | [] => pure (s, [])
  | u :: us => do
    let (next, answer) ← p.use s u
    let (last, answers) ← p.useAll next us
    return (last, answer :: answers)

end Place

def Use.extent? : Use → Option Extent
  | .load | .read _ => none
  | .publish e => some e
  | .publishFrom s =>
    if s.markers.start ≤ s.markers.stop then
      some ⟨s.markers.start, s.markers.stop - s.markers.start⟩
    else none

def published (uses : List Use) : List Extent := uses.filterMap Use.extent?

def latest (uses : List Use) : Extent := (published uses).getLast?.getD Extent.empty

namespace Use

def answer (address : UInt64) (before : List Use) : Use → Answer
  | .load => .held (latest before)
  | .publish _ => .handed address
  | .publishFrom s =>
    if s.markers.start ≤ s.markers.stop then .handed address
    else .refused ⟨s.name, ⟨s.markers.start, s.markers.stop⟩⟩
  | .read k => .found (if k < (published before).length then some (latest before) else none)

def records : Use → List Event
  | .publishFrom s => s.announced
  | _ => []

end Use

theorem published_append (before : List Use) (u : Use) :
    published (before ++ [u]) = published before ++ u.extent?.toList := by
  rw [published, List.filterMap_append]
  cases h : u.extent? <;> simp [published, h]

theorem latest_append (before : List Use) (u : Use) :
    latest (before ++ [u]) = u.extent?.getD (latest before) := by
  rw [latest, published_append]
  cases u.extent? <;> simp [latest]

namespace Place

variable {σ : Type} {p : Place σ} {address : UInt64} {Holds : Extent → σ → Prop}

/-- A place at `address` whose operations do what they are for, where `Holds e state` says what
the state stands for. -/
structure Keeps (p : Place σ) (address : UInt64) (Holds : Extent → σ → Prop) : Prop where
  load : ∀ {e state}, Holds e state → p.load state = e
  readAt? : ∀ {e state}, Holds e state → p.readAt? address state = some e
  publish : ∀ {e state}, Holds e state → ∀ d, ∃ next, Holds d next ∧
    p.publish d state = pure (address, next)
  resolved : ∀ {e state}, Holds e state → ∀ {s : Section}, s.markers.start ≤ s.markers.stop →
    ∃ next, Holds ⟨s.markers.start, s.markers.stop - s.markers.start⟩ next ∧
      p.publishFrom s state = ⟨(.ok address, next), s.announced⟩
  refused : ∀ {e state}, Holds e state → ∀ {s : Section}, ¬ s.markers.start ≤ s.markers.stop →
    p.publishFrom s state = pure (.error ⟨s.name, ⟨s.markers.start, s.markers.stop⟩⟩, state)

/-- What a session has come to after `before`. -/
structure Tracks (address : UInt64) (Holds : Extent → σ → Prop) (before : List Use)
    (s : Session σ) : Prop where
  holds : Holds (latest before) s.state
  handed : s.handed = List.replicate (published before).length address

variable {before : List Use} {s : Session σ} {u : Use}

theorem Tracks.keep (h : Tracks address Holds before s) (hu : u.extent? = none) :
    Tracks address Holds (before ++ [u]) s := by
  refine ⟨?_, ?_⟩
  · rw [latest_append, hu]
    exact h.holds
  · rw [published_append, hu, h.handed]
    simp

theorem Tracks.hand (h : Tracks address Holds before s) {e : Extent} (hu : u.extent? = some e)
    {state : σ} (hstate : Holds e state) :
    Tracks address Holds (before ++ [u]) ⟨state, s.handed ++ [address]⟩ := by
  refine ⟨?_, ?_⟩
  · rw [latest_append, hu]
    exact hstate
  · rw [published_append, hu, h.handed]
    simp [List.replicate_succ']

theorem Keeps.use (hp : p.Keeps address Holds) (h : Tracks address Holds before s) (u : Use) :
    ∃ next, p.use s u = ⟨(next, u.answer address before), u.records⟩ ∧
      Tracks address Holds (before ++ [u]) next := by
  cases u with
  | load =>
      refine ⟨s, ?_, h.keep rfl⟩
      rw [Place.use, hp.load h.holds]
      rfl
  | publish e =>
      obtain ⟨state, hstate, he⟩ := hp.publish h.holds e
      refine ⟨_, ?_, h.hand rfl hstate⟩
      rw [Place.use, he]
      rfl
  | publishFrom origin =>
      by_cases hm : origin.markers.start ≤ origin.markers.stop
      · obtain ⟨state, hstate, he⟩ := hp.resolved h.holds hm
        have hu : (Use.publishFrom origin).extent? = some _ := if_pos hm
        refine ⟨_, ?_, h.hand hu hstate⟩
        rw [Place.use, he, Use.answer, if_pos hm]
        exact congrArg _ (List.append_nil _)
      · have he := hp.refused h.holds hm
        refine ⟨s, ?_, h.keep (if_neg hm)⟩
        rw [Place.use, he, Use.answer, if_neg hm, Use.records, Section.announced_of_not_le hm]
        rfl
  | read k =>
      refine ⟨s, ?_, h.keep rfl⟩
      rw [Place.use, h.handed, List.getElem?_replicate, Use.answer]
      split
      · rw [Option.bind_some, hp.readAt? h.holds]
        rfl
      · rfl

theorem Keeps.useAll (hp : p.Keeps address Holds) (h : Tracks address Holds before s)
    (uses : List Use) :
    ∃ last, p.useAll s uses =
        ⟨(last, uses.mapIdx fun i u => u.answer address (before ++ uses.take i)),
          uses.flatMap Use.records⟩ ∧
      Tracks address Holds (before ++ uses) last := by
  induction uses generalizing before s with
  | nil => exact ⟨s, rfl, by rwa [List.append_nil]⟩
  | cons u us ih =>
      obtain ⟨next, hu, hnext⟩ := hp.use h u
      obtain ⟨last, hus, hlast⟩ := ih hnext
      refine ⟨last, ?_, by rwa [List.append_cons]⟩
      have hcons : p.useAll s (u :: us) = ⟨((p.useAll next us).value.1, u.answer address before ::
          (p.useAll next us).value.2), u.records ++ (p.useAll next us).log⟩ := by
        rw [Place.useAll, hu]
        exact congrArg (Logged.mk _) (congrArg (u.records ++ ·) (List.append_nil _))
      -- what precedes a use of the rest is `before` with `u` at its end
      have hanswers : (fun i (v : Use) => v.answer address (before ++ (u :: us).take (i + 1))) =
          fun i (v : Use) => v.answer address (before ++ [u] ++ us.take i) := by
        funext i v
        rw [List.take_succ_cons, List.append_cons]
      rw [hcons, hus, List.mapIdx_cons, hanswers, List.take_zero, List.append_nil,
        List.flatMap_cons]

theorem keeps_mailbox (address : UInt64) :
    Mailbox.place.Keeps address fun e box => box = ⟨address, e.start, e.size⟩ where
  load := by
    rintro e box rfl
    rfl
  readAt? := by
    rintro e box rfl
    exact if_pos rfl
  publish := by
    rintro e box rfl d
    exact ⟨_, rfl, rfl⟩
  resolved := by
    rintro e box rfl s hs
    refine ⟨_, rfl, ?_⟩
    simp only [Mailbox.place, Mailbox.publishFrom, Section.resolve_of_le hs]
    exact congrArg (Logged.mk _) (show (s.announced ++ []) ++ [] = s.announced by simp)
  refused := by
    rintro e box rfl s hs
    simp only [Mailbox.place, Mailbox.publishFrom, Section.resolve_of_not_le hs]
    rfl

/-- The extent lies at the address, and around it everything is as it was. -/
structure Lies (address : UInt64) (before : Storage) (e : Extent) (memory : Storage) : Prop where
  size : memory.size = before.size
  fetch : Extent.fetch address memory = e
  around : ∀ i, i < address.toNat ∨ address.toNat + Extent.width ≤ i →
    memory.byte i = before.byte i

theorem Lies.storeAt {before memory : Storage} {d : Extent}
    (hroom : address.toNat + Extent.width ≤ before.size) (h : Lies address before d memory)
    (e : Extent) : Lies address before e (e.storeAt address memory) where
  size := by rw [Extent.size_storeAt, h.size]
  fetch := Extent.fetch_storeAt e (by rwa [h.size])
  around i hi := by rw [Extent.byte_storeAt e hi, h.around i hi]

theorem keeps_inMemory {before : Storage} (hroom : address.toNat + Extent.width ≤ before.size) :
    (inMemory address).Keeps address (Lies address before) where
  load h := h.fetch
  readAt? h := by
    refine (if_pos ?_).trans (congrArg some h.fetch)
    rwa [h.size]
  publish h d := ⟨_, h.storeAt hroom d, rfl⟩
  resolved := by
    intro e memory h s hs
    refine ⟨_, h.storeAt hroom _, ?_⟩
    simp only [inMemory, Section.resolve_of_le hs]
    -- each lift into the larger monad logs nothing
    exact congrArg (Logged.mk _) (show ((s.announced ++ []) ++ []) ++ [] = s.announced by simp)
  refused := by
    intro e memory h s hs
    simp only [inMemory, Section.resolve_of_not_le hs]
    rfl

/-- After the uses, each with the answer and the records that the publishes before it call for, the
session reads the extent published last through every address it was handed. A section that does not
resolve then changes nothing. -/
structure Tells (p : Place σ) (address : UInt64) (initial : σ) (uses : List Use)
    (last : Session σ) : Prop where
  answers : p.useAll ⟨initial, []⟩ uses =
    ⟨(last, uses.mapIdx fun i u => u.answer address (uses.take i)), uses.flatMap Use.records⟩
  load : p.load last.state = latest uses
  handed : last.handed = List.replicate (published uses).length address
  readAt? : ∀ a ∈ last.handed, p.readAt? a last.state = some (latest uses)
  refused : ∀ s : Section, ¬ s.markers.start ≤ s.markers.stop →
    p.use last (.publishFrom s) =
      pure (last, .refused ⟨s.name, ⟨s.markers.start, s.markers.stop⟩⟩)

theorem Keeps.tells (hp : p.Keeps address Holds) {initial : σ} (hi : Holds Extent.empty initial)
    (uses : List Use) :
    ∃ last, p.Tells address initial uses last ∧ Holds (latest uses) last.state := by
  have hstart : Tracks address Holds [] ⟨initial, []⟩ := ⟨hi, rfl⟩
  obtain ⟨last, hrun, hlast⟩ := hp.useAll hstart uses
  refine ⟨last, ⟨hrun, hp.load hlast.holds, hlast.handed, fun a ha => ?_, fun s hs => ?_⟩,
    hlast.holds⟩
  · have ha : a ∈ List.replicate (published uses).length address := hlast.handed ▸ ha
    rw [List.eq_of_mem_replicate ha]
    exact hp.readAt? hlast.holds
  · rw [Place.use, hp.refused hlast.holds hs]
    rfl

end Place

/-- A mailbox tells what was last published, after any uses, and hands out no address but its own.
So do two fields of memory, wherever there is room for them, and nothing beside them is written. A
copy of a file is published at its own address and with its own length. -/
theorem mailbox_tells_latest (address : UInt64) (uses : List Use) :
    (∃ last, Mailbox.place.Tells address (Mailbox.fresh address) uses last ∧
      last.state = ⟨address, (latest uses).start, (latest uses).size⟩) ∧
    (∀ memory : Storage, address.toNat + Mailbox.width ≤ memory.size →
      ∃ last, (Place.inMemory address).Tells address (Extent.empty.storeAt address memory) uses
          last ∧
        last.state.size = memory.size ∧
        ∀ i, i < address.toNat ∨ address.toNat + Mailbox.width ≤ i →
          last.state.byte i = memory.byte i) ∧
    ∀ (name : String) (file : Region), file.Fits →
      latest (uses ++ [.publishFrom (.ofProvider (Owned.ofBytes name file.base file.bytes))]) =
        ⟨file.base, UInt64.ofNat file.bytes.length⟩ := by
  refine ⟨(Place.keeps_mailbox address).tells rfl uses, fun memory hroom => ?_,
    fun name file hfile => ?_⟩
  · have hmemory : Place.Lies address memory (Extent.fetch address memory) memory :=
      ⟨rfl, rfl, fun _ _ => rfl⟩
    have hfresh := hmemory.storeAt hroom Extent.empty
    obtain ⟨last, htells, hlies⟩ := (Place.keeps_inMemory hroom).tells hfresh uses
    exact ⟨last, htells, hlies.size, hlies.around⟩
  · have horigin : Section.ofProvider (Owned.ofBytes name file.base file.bytes) =
        .ofRegion name file := rfl
    have hextent : Use.extent? (.publishFrom (.ofRegion name file)) = some _ := if_pos hfile.ordered
    rw [latest_append, horigin, hextent]
    simp [Section.ofRegion, Region.markers, UInt64.add_comm file.base]

/-- A publish, one whose markers are the wrong way round, and reads through the address that was
handed out and through one that was not. -/
theorem mailbox_tells_latest_refused :
    let wrong : Section := ⟨"turned", ⟨8, 4⟩⟩
    let uses : List Use := [.publish ⟨0xFFFFFFFFFFFFFFF0, 32⟩, .publishFrom wrong, .read 0, .read 1]
    let answers : List Answer := [.handed 16, .refused ⟨"turned", ⟨8, 4⟩⟩,
      .found (some ⟨0xFFFFFFFFFFFFFFF0, 32⟩), .found none]
    (∃ last, Mailbox.place.useAll ⟨Mailbox.fresh 16, []⟩ uses = pure (last, answers) ∧
      last.state.load = ⟨0xFFFFFFFFFFFFFFF0, 32⟩) ∧
    ∃ last, (Place.inMemory 16).useAll ⟨Extent.empty.storeAt 16 (Storage.zeroed 8), []⟩ uses =
        pure (last, answers) ∧
      Extent.fetch 16 last.state = ⟨0xFFFFFFFFFFFFFFF0, 32⟩ := by
  intro wrong uses answers
  have hroom : (16 : UInt64).toNat + Mailbox.width ≤ (Storage.zeroed 8).size := by decide
  obtain ⟨⟨box, hbox, -⟩, hmemory, -⟩ := mailbox_tells_latest 16 uses
  obtain ⟨last, hlast, -⟩ := hmemory (Storage.zeroed 8) hroom
  exact ⟨⟨box, hbox.answers, hbox.load⟩, last, hlast.answers, hlast.load⟩

end Interop.Sections
