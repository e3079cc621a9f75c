/-! Bytes read as text in UTF-8, with the place where they stop being text. -/

namespace ArrivalManager

/-- Where and how a sequence of bytes stops being text. -/
inductive Utf8Fault where
  /-- So many bytes from the index on can not begin any character. -/
  | invalid (count index : Nat)
  /-- The bytes end inside the character that begins at the index. -/
  | incomplete (index : Nat)
deriving DecidableEq

/-- The text reported for bytes that are no text. -/
def Utf8Fault.message : Utf8Fault → String
  | .invalid count index =>
    "invalid utf-8 sequence of " ++ toString count ++ " bytes from index " ++ toString index
  | .incomplete index => "incomplete utf-8 byte sequence from index " ++ toString index

/-- A byte after the first one of a character. -/
def isContinuation (byte : Nat) : Bool := 0x80 ≤ byte && byte ≤ 0xBF

/--
The bytes that may come second.

The narrower ranges leave out longer spellings of shorter characters, surrogates, and everything
above the last code point.
-/
def admitsSecond (first second : Nat) : Bool :=
  if first = 0xE0 then 0xA0 ≤ second && second ≤ 0xBF
  else if first = 0xED then 0x80 ≤ second && second ≤ 0x9F
  else if first = 0xF0 then 0x90 ≤ second && second ≤ 0xBF
  else if first = 0xF4 then 0x80 ≤ second && second ≤ 0x8F
  else isContinuation second

/-- The number of bytes of a character that begins with this byte, if any does. -/
def sequenceLength? (first : Nat) : Option Nat :=
  if first < 0x80 then some 1
  else if 0xC2 ≤ first && first ≤ 0xDF then some 2
  else if 0xE0 ≤ first && first ≤ 0xEF then some 3
  else if 0xF0 ≤ first && first ≤ 0xF4 then some 4
  else none

/-- The bits that a byte adds to the code point of its character. -/
def continuationBits (byte : Nat) : Nat := byte % 0x40

/-- The first character of some bytes that begin at the given index, and how many bytes it takes. -/
def decodeFirst (index first : Nat) (rest : List Nat) : Except Utf8Fault (Char × Nat) :=
  match sequenceLength? first with
  | none => .error (.invalid 1 index)
  | some 1 => .ok (Char.ofNat first, 1)
  | some length =>
    match rest with
    | [] => .error (.incomplete index)
    | second :: rest =>
      if ¬ admitsSecond first second then .error (.invalid 1 index)
      else if length = 2 then
        .ok (Char.ofNat (first % 0x20 * 0x40 + continuationBits second), 2)
      else
        match rest with
        | [] => .error (.incomplete index)
        | third :: rest =>
          let upper := continuationBits second * 0x40 + continuationBits third
          if ¬ isContinuation third then .error (.invalid 2 index)
          else if length = 3 then .ok (Char.ofNat (first % 0x10 * 0x1000 + upper), 3)
          else
            match rest with
            | [] => .error (.incomplete index)
            | fourth :: _ =>
              if ¬ isContinuation fourth then .error (.invalid 3 index)
              else
                .ok (Char.ofNat (first % 0x08 * 0x40000 + upper * 0x40
                  + continuationBits fourth), 4)

/-- The characters of bytes from an index on, put before nothing and behind those already read. -/
def decodeFrom (index : Nat) (decoded : List Char) : List Nat → Except Utf8Fault (List Char)
  | [] => .ok decoded.reverse
  | first :: rest =>
    match decodeFirst index first rest with
    | .error fault => .error fault
    | .ok (char, length) =>
      decodeFrom (index + length) (char :: decoded) (rest.drop (length - 1))
termination_by bytes => bytes.length
decreasing_by simp only [List.length_drop, List.length_cons]; omega

/-- The text that the bytes spell. -/
def decodeUtf8 (bytes : List Nat) : Except Utf8Fault (List Char) := decodeFrom 0 [] bytes

end ArrivalManager
