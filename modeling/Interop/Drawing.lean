import Interop.Managed.Report

namespace Interop.Drawing

open Managed

def black : UInt32 := 0x000000

def white : UInt32 := 0xFFFFFF

def greeting : String := "Hello World"

/-- A draw call as its receiver understands it. -/
inductive Call
  | clear (color : UInt32)
  | char (unit : UInt16) (x y : Int32) (color : UInt32)
  | managed (units : List UInt16) (x y : Int32) (color : UInt32)
  | unmanaged (bytes : List UInt8) (x y : Int32) (color : UInt32)
deriving DecidableEq, Repr

/-- Anything that can be drawn on, where drawing changes a state. -/
structure Surface (σ : Type) where
  clear : UInt32 → σ → σ
  char : UInt16 → Int32 → Int32 → UInt32 → σ → σ
  managed : Image → Int32 → Int32 → UInt32 → σ → σ
  unmanaged : List UInt8 → Int32 → Int32 → UInt32 → σ → σ

/-- The bytes before the first zero byte, or all of them. -/
def beforeZero (bytes : List UInt8) : List UInt8 := bytes.takeWhile (· ≠ 0)

def recorder : Surface (List Call) where
  clear color calls := calls ++ [.clear color]
  char unit x y color calls := calls ++ [.char unit x y color]
  managed image x y color calls := calls ++ [.managed image.units x y color]
  unmanaged bytes x y color calls := calls ++ [.unmanaged (beforeZero bytes) x y color]

/-- What crosses the boundary: a string travels as the memory behind its address. -/
inductive Message
  | clear (color : UInt32)
  | char (unit : UInt16) (x y : Int32) (color : UInt32)
  | managed (memory : Storage) (x y : Int32) (color : UInt32)
  | unmanaged (memory : List UInt8) (x y : Int32) (color : UInt32)
deriving DecidableEq

/-- Sends every call across. Unmanaged text goes with a zero byte behind it. -/
def sender : Surface (List Message) where
  clear color sent := sent ++ [.clear color]
  char unit x y color sent := sent ++ [.char unit x y color]
  managed image x y color sent := sent ++ [.managed image.storage x y color]
  unmanaged bytes x y color sent := sent ++ [.unmanaged (beforeZero bytes ++ [0]) x y color]

/-- The receiver knows nothing but the memory, so it looks at the header for the length and for a
zero byte for the end. -/
def Message.receive : Message → Call
  | .clear color => .clear color
  | .char unit x y color => .char unit x y color
  | .managed memory x y color => .managed (Image.units ⟨memory, 0⟩) x y color
  | .unmanaged memory x y color => .unmanaged (beforeZero memory) x y color

/-- One thing that native code draws. Edits to a managed string come before it is drawn, and behind
them its header may be given another length. -/
inductive Step
  | clear (color : UInt32)
  | char (unit : UInt16) (x y : Int32) (color : UInt32)
  | unitOf (image : Image) (index x y : Int32) (color : UInt32)
  | managed (image : Image) (edits : List Edit) (length : Option Int32) (x y : Int32)
      (color : UInt32)
  | unmanaged (bytes : List UInt8) (x y : Int32) (color : UInt32)
  | greeting
  | exported
deriving DecidableEq

variable {σ : Type}

def Surface.greet (s : Surface σ) (state : σ) : σ :=
  s.unmanaged Drawing.greeting.toUTF8.toList 10 10 white (s.clear black state)

/-- The entry point by which the managed side asks for the greeting. It has no other surface. -/
def exportedGreeting (sent : List Message) : List Message := sender.greet sent

/-- Where native code draws, and what comes of messages that an entry point sends whatever that
surface is. -/
structure Side (σ : Type) where
  surface : Surface σ
  accept : List Message → σ → σ

def direct : Side (List Call) := ⟨recorder, fun sent calls => calls ++ sent.map Message.receive⟩

def across : Side (List Message) := ⟨sender, fun more sent => sent ++ more⟩

namespace Side

def perform (s : Side σ) (state : σ) : Step → Logged σ
  | .clear color => pure (s.surface.clear color state)
  | .char unit x y color => pure (s.surface.char unit x y color state)
  | .unitOf image index x y color => do
    let unit ← image.get index
    return s.surface.char unit x y color state
  | .managed image edits length x y color => do
    let (edited, _) ← image.writeAll image.length edits
    return s.surface.managed (length.elim edited edited.setLength) x y color state
  | .unmanaged bytes x y color => pure (s.surface.unmanaged bytes x y color state)
  | .greeting => pure (s.surface.greet state)
  | .exported => pure (s.accept (exportedGreeting []) state)

def performAll (s : Side σ) (state : σ) : List Step → Logged σ
  | [] => pure state
  | step :: steps => do
    let next ← s.perform state step
    s.performAll next steps

end Side

end Interop.Drawing
