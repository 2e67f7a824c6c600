import LetLang.Token.Lexer

namespace LetLang

open Text

structure Cursor where
  input : List UInt8
  position : Nat
  readPosition : Nat
  byte : UInt8
  deriving DecidableEq, Repr

namespace Cursor

def atEnd (c : Cursor) : Bool :=
  decide (c.input.length ≤ c.position)

def readByte (c : Cursor) : Cursor :=
  match c.input[c.readPosition]? with
  | some b => ⟨c.input,c.readPosition,c.readPosition + 1,b⟩
  | none => ⟨c.input,c.input.length,c.input.length,0⟩

def ofBytes (input : List UInt8) : Cursor :=
  readByte ⟨input,0,0,0⟩

def peek? (c : Cursor) : Option UInt8 :=
  c.input[c.readPosition]?

def weight (c : Cursor) : Nat :=
  c.input.length - c.readPosition + if c.atEnd then 0 else 1

theorem weight_readByte_lt {c : Cursor} (h : ¬c.atEnd) : c.readByte.weight < c.weight := by
  have hw : c.weight = c.input.length - c.readPosition + 1 := by rw [weight, if_neg h]
  rw [hw, readByte]
  split
  · rename_i b hb
    have hlt := (List.getElem?_eq_some_iff.mp hb).1
    simp only [weight]
    split <;> omega
  · simp [weight, atEnd]

def skipWhile (p : UInt8 → Bool) (c : Cursor) : Cursor :=
  if _ : c.atEnd then c
  else if p c.byte then c.readByte.skipWhile p
  else c
termination_by c.weight
decreasing_by exact weight_readByte_lt ‹_›

def literal? (c : Cursor) (start : Nat) : Option String :=
  if start ≤ c.position ∧ c.position ≤ c.input.length then
    some (latin ((c.input.drop start).take (c.position - start)))
  else none

def token? (c : Cursor) (kind : String → Kind) (start : Nat) : Option (Token × Cursor) :=
  (c.literal? start).map (fun literal => (⟨kind literal,literal,⟨start,c.position⟩⟩, c))

def operatorOrDouble (c : Cursor) (simple double : Operator) : Kind × Cursor :=
  if c.peek?.map Char.ofUInt8 = some '=' then (.operator double, c.readByte)
  else (.operator simple, c)

def sign (c : Cursor) : Kind × Cursor :=
  match Char.ofUInt8 c.byte with
  | '=' => c.operatorOrDouble .assign .eq
  | '!' => c.operatorOrDouble .bang .notEq
  | _ => (singleSign c.byte, c)

def scan? (c : Cursor) : Option (Token × Cursor) :=
  if isLetter c.byte then (c.skipWhile isLetter).token? .ofWord c.position
  else if isDigit c.byte then (c.skipWhile isDigit).token? (fun _ => .int) c.position
  else
    let (kind, last) := c.sign
    last.readByte.token? (fun _ => kind) c.position

def next? (c : Cursor) : Option (Token × Cursor) :=
  let first := c.skipWhile isBlank
  if first.atEnd then some (.eof first.position, first) else first.scan?

def read? : Nat → Cursor → Option (List Token × Cursor)
  | 0, c => some ([], c)
  | n + 1, c => do
    let (t, after) ← c.next?
    let (ts, last) ← after.read? n
    some (t :: ts, last)

end Cursor

end LetLang
