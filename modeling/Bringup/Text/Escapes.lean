import Bringup.Text.Utf8
/-!
# Escape sequences

A text for a terminal may hold sequences that steer the terminal: an escape and what follows
it, up to a character that ends the sequence. What is written somewhere else is shown without
them, and without the control characters that are no blanks.

A blank inside a sequence is shown, and so is all that follows it up to the next control
character; from there on the sequence goes on.
-/

namespace Bringup.Text

/-- Where in a sequence a text is. -/
inductive EscapeState where
  /-- In no sequence. -/
  | ground
  /-- Behind an escape. -/
  | escape
  | escapeIntermediate
  /-- In a control sequence, which begins with a bracket. -/
  | controlEntry
  | controlParameter
  | controlIntermediate
  | controlIgnored
  /-- In a device control string. -/
  | deviceEntry
  | deviceParameter
  | deviceIntermediate
  | deviceContent
  | deviceIgnored
  /-- In an operating system command. -/
  | command
  /-- In a string of another kind. -/
  | string
  deriving DecidableEq, Repr

namespace EscapeState

/-- The state behind an escape and this character. -/
def behindEscape (code : Nat) : EscapeState :=
  if code < 0x20 || code = 0x7f then .escape
  else if code < 0x30 then .escapeIntermediate
  else if code = 0x50 then .deviceEntry
  else if code = 0x5b then .controlEntry
  else if code = 0x5d then .command
  else if code ∈ [0x58, 0x5e, 0x5f] then .string
  else .ground

/-- The state behind a character of a control sequence or a device control string. Such a
sequence has parameters, then intermediate characters, and then one that ends it. -/
def behindParameters (state parameter intermediate ignored final : EscapeState) (code : Nat) :
    EscapeState :=
  if code < 0x20 || code = 0x7f then state
  else if code < 0x30 then if state = ignored then state else intermediate
  else if code < 0x40 then
    if state = parameter && 0x3c ≤ code || state = intermediate || state = ignored then ignored
    else parameter
  else final

/-- The state behind an ASCII character that is no escape and cancels nothing. -/
def behindAscii (state : EscapeState) (code : Nat) : EscapeState :=
  match state with
  | .ground => .ground
  | .escape => behindEscape code
  | .escapeIntermediate => if code < 0x30 || code = 0x7f then state else .ground
  | .controlEntry | .controlParameter | .controlIntermediate | .controlIgnored =>
    behindParameters state .controlParameter .controlIntermediate .controlIgnored .ground code
  | .deviceEntry | .deviceParameter | .deviceIntermediate =>
    behindParameters state .deviceParameter .deviceIntermediate .deviceIgnored .deviceContent code
  | .command => if code = 0x07 then .ground else state
  | .deviceContent | .deviceIgnored | .string => state

/-- The state behind a character. The byte 9c ends strings, also inside the encoding of a
character. -/
def behind (state : EscapeState) (c : Char) : EscapeState :=
  let code := c.toNat
  if code = 0x1b then .escape
  else if code = 0x18 || code = 0x1a then .ground
  else if code < 0x80 then state.behindAscii code
  else if state ∈ [.deviceContent, .deviceIgnored, .string]
      && (utf8Bytes (String.singleton c)).contains 0x9c then .ground
  else state

/-- Whether control characters are carried out at once in this state. -/
def carriesOut (state : EscapeState) : Bool :=
  state ∈ [.ground, .escape, .escapeIntermediate, .controlEntry, .controlParameter,
    .controlIntermediate, .controlIgnored]

end EscapeState

/-- Whether a character is a blank that is carried out as a control character. -/
def isControlBlank (c : Char) : Bool := c ∈ ['\t', '\n', '\x0c', '\r']

/-- Whether a character in no sequence is shown. -/
def isShownAlone (c : Char) : Bool :=
  isControlBlank c || (decide (0x20 ≤ c.toNat) && c.toNat != 0x7f)

/-- Whether a character is shown that follows what is not shown. -/
def EscapeState.shows (state : EscapeState) (c : Char) : Bool :=
  if state = .ground then isShownAlone c else isControlBlank c && state.carriesOut

/-- What is shown of a text that begins in some state; `showing` tells whether the character
in front of it was shown. -/
def shownFrom (state : EscapeState) (showing : Bool) : List Char → List Char
  | [] => []
  | c :: rest =>
    let shown := if showing then isShownAlone c else state.shows c
    let behind := if showing && shown then state else state.behind c
    let behind := if shown && 0x80 ≤ c.toNat then .ground else behind
    if shown then c :: shownFrom behind true rest else shownFrom behind false rest

/-- A text without its escape sequences. -/
def withoutEscapes (text : String) : String := String.ofList (shownFrom .ground false text.toList)

/-- Cuts a text into pieces that are shown and pieces that are not. Here a piece that is shown
ends the sequence in front of it. -/
def shownPieces (state : EscapeState) (showing : Bool) (piece : List Char) :
    List Char → List (Bool × List Char)
  | [] => [(showing, piece.reverse)]
  | c :: rest =>
    let shown := if showing then isShownAlone c else state.shows c
    let behind := if shown then .ground else state.behind c
    if shown = showing then shownPieces behind showing (c :: piece) rest
    else (showing, piece.reverse) :: shownPieces behind shown [c] rest

end Bringup.Text
