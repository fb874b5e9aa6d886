import Interop.Sections.Mailbox

namespace Interop.Sections.DeviceTable

/-- The table of device names, which the build links in between two markers. -/
def table (markers : Markers) : Section := ⟨"pcieids", markers⟩

/-- Each request resolves the table anew and overwrites the mailbox, so that nothing is held from
before. The answer is the mailbox's address. -/
def request (box : Mailbox) (markers : Markers) :
    Logged (Except Unresolvable (Mailbox × UInt64)) :=
  box.publishFrom (table markers)

end Interop.Sections.DeviceTable
