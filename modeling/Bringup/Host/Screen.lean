import Bringup.Part
/-!
# Screens

A screen shows console text. It takes bytes and is told when to bring them up; a screen
may be full.
-/

namespace Bringup

/-- A place for console text, over a state `σ`. Failures carry their cause. -/
structure Screen (σ : Type) where
  write : List UInt8 → EStateM String σ Unit
  flush : EStateM String σ Unit

/-- A screen over a part of a state is a screen over the whole. -/
def Screen.onPart {σ τ : Type} (screen : Screen τ) (place : Part σ τ) : Screen σ where
  write bytes := place.run (screen.write bytes)
  flush := place.run screen.flush

/-- What happened on a screen. -/
inductive ScreenEvent where
  | byte (value : UInt8)
  | flush
  deriving DecidableEq, Repr

/-- A screen that keeps what happens on it. -/
structure KeptScreen where
  events : Array ScreenEvent := #[]
  /-- How many more bytes fit. -/
  room : Option Nat := none

namespace KeptScreen

/-- Keeps bytes, if they fit. -/
def write (bytes : List UInt8) : EStateM String KeptScreen Unit := fun kept =>
  if kept.room.all (bytes.length ≤ ·) then
    .ok () ⟨kept.events ++ bytes.map ScreenEvent.byte, kept.room.map (· - bytes.length)⟩
  else .error "screen full" kept

/-- The screen that keeps. -/
def screen : Screen KeptScreen where
  write := write
  flush := modify fun kept => { kept with events := kept.events.push .flush }

/-- The bytes shown. -/
def bytes (kept : KeptScreen) : List UInt8 :=
  kept.events.toList.filterMap fun
    | .byte value => some value
    | .flush => none

/-- The bytes in hexadecimal, with a bar wherever they were brought up. -/
def text (kept : KeptScreen) : String :=
  kept.events.foldl (fun text event => text ++ match event with
    | .byte value => Text.hex 2 value.toNat
    | .flush => "|") ""

end KeptScreen

end Bringup
