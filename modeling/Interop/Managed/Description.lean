import Interop.Managed.Image

namespace Interop.Managed.Image

open Text

def describe (m : Image) : String :=
  "StringImage \x7b length: " ++ decimal m.count ++ ", aligned: true \x7d"

def describeLines (m : Image) : String :=
  "StringImage \x7b\n    length: " ++ decimal m.count ++ ",\n    aligned: true,\n\x7d"

def describeView (kind place : String) (m : Image) : String :=
  kind ++ " \x7b ptr: " ++ place ++ ", length: " ++ integer m.length.toInt ++ " \x7d"

def describeReader (place : String) (m : Image) : String := m.describeView "StringRef" place

def describeWriter (place : String) (m : Image) : String := m.describeView "StringMut" place

end Interop.Managed.Image
