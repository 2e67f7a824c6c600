import LetLang.Text.Bytes
import LetLang.Token.Basic

namespace LetLang

open Text

def doubleSign? (b : UInt8) : List UInt8 → Option Operator
  | [] => none
  | n :: _ =>
    if Char.ofUInt8 n = '=' then
      match Char.ofUInt8 b with
      | '=' => some .eq
      | '!' => some .notEq
      | _ => none
    else none

def singleSign (b : UInt8) : Kind :=
  match Char.ofUInt8 b with
  | '=' => .operator .assign
  | '!' => .operator .bang
  | '+' => .operator .plus
  | '-' => .operator .minus
  | '*' => .operator .asterisk
  | '/' => .operator .slash
  | '<' => .operator .lt
  | '>' => .operator .gt
  | ',' => .punctuation .comma
  | ';' => .punctuation .semicolon
  | '(' => .punctuation .lParen
  | ')' => .punctuation .rParen
  | '{' => .punctuation .lBrace
  | '}' => .punctuation .rBrace
  | _ => .illegal

theorem singleSign_ne_eof (b : UInt8) : singleSign b ≠ .eof := by
  unfold singleSign
  split <;> simp

def lexeme (b : UInt8) (bs : List UInt8) : Kind × Nat :=
  if isLetter b then
    let more := bs.takeWhile isLetter
    (.ofWord (latin (b :: more)), more.length)
  else if isDigit b then
    (.int, (bs.takeWhile isDigit).length)
  else
    match doubleSign? b bs with
    | some o => (.operator o, 1)
    | none => (singleSign b, 0)

theorem lexeme_ne_eof (b : UInt8) (bs : List UInt8) : (lexeme b bs).1 ≠ .eof := by
  unfold lexeme
  split
  · exact Kind.ofWord_ne_eof _
  · split
    · simp
    · split
      · simp
      · exact singleSign_ne_eof b

theorem lexeme_le_length (b : UInt8) (bs : List UInt8) : (lexeme b bs).2 ≤ bs.length := by
  unfold lexeme
  split
  · exact (List.takeWhile_sublist _).length_le
  · split
    · exact (List.takeWhile_sublist _).length_le
    · split
      · cases bs with
        | nil => simp_all [doubleSign?]
        | cons n bs => simp
      · simp

structure Lexer where
  offset : Nat
  rest : List UInt8
  deriving DecidableEq, Repr

namespace Lexer

def ofBytes (bytes : List UInt8) : Lexer :=
  ⟨0,bytes⟩

def ofText (source : String) : Lexer :=
  ofBytes (utf8 source)

def skipBlanksFrom (offset : Nat) : List UInt8 → Lexer
  | [] => ⟨offset,[]⟩
  | b :: bs => if isBlank b then skipBlanksFrom (offset + 1) bs else ⟨offset,b :: bs⟩

theorem skipBlanksFrom_rest (offset : Nat) (bs : List UInt8) :
    (skipBlanksFrom offset bs).rest = bs.dropWhile isBlank := by
  induction bs generalizing offset with
  | nil => rfl
  | cons b bs ih =>
    simp only [skipBlanksFrom, List.dropWhile_cons]
    split
    · exact ih _
    · rfl

theorem skipBlanksFrom_offset (offset : Nat) (bs : List UInt8) :
    (skipBlanksFrom offset bs).offset = offset + (bs.takeWhile isBlank).length := by
  induction bs generalizing offset with
  | nil => rfl
  | cons b bs ih =>
    simp only [skipBlanksFrom, List.takeWhile_cons]
    split
    · rw [ih, List.length_cons]
      omega
    · rfl

def skipBlanks (lx : Lexer) : Lexer :=
  skipBlanksFrom lx.offset lx.rest

theorem skipBlanks_rest_length_le (lx : Lexer) :
    lx.skipBlanks.rest.length ≤ lx.rest.length := by
  rw [skipBlanks, skipBlanksFrom_rest]
  exact (List.dropWhile_sublist _).length_le

def next (lx : Lexer) : Token × Lexer :=
  match lx.skipBlanks with
  | ⟨start,[]⟩ => (.eof start, ⟨start,[]⟩)
  | ⟨start,b :: bs⟩ =>
    let (kind, more) := lexeme b bs
    let stop := start + 1 + more
    (⟨kind,latin (b :: bs.take more),⟨start,stop⟩⟩, ⟨stop,bs.drop more⟩)

theorem next_rest_length_le (lx : Lexer) : lx.next.2.rest.length ≤ lx.rest.length := by
  have h := lx.skipBlanks_rest_length_le
  unfold next
  split
  · simp
  · simp_all
    omega

theorem next_rest_length_lt {lx : Lexer} (h : lx.next.1.kind ≠ .eof) :
    lx.next.2.rest.length < lx.rest.length := by
  have hs := lx.skipBlanks_rest_length_le
  unfold next at *
  split at h
  · simp [Token.eof] at h
  · simp_all
    omega

theorem next_weight_le (lx : Lexer) :
    lx.next.2.rest.length + lx.next.1.weight ≤ lx.rest.length := by
  unfold Token.weight
  split
  · exact lx.next_rest_length_le
  · exact next_rest_length_lt ‹_›

def next? (lx : Lexer) : Option Token × Lexer :=
  let (t, after) := lx.next
  (if t.kind = .eof then none else some t, after)

def drainOnto (acc : List Token) (lx : Lexer) : List Token × Lexer :=
  let step := lx.next
  if _ : step.1.kind = .eof then (acc.reverse, step.2) else drainOnto (step.1 :: acc) step.2
termination_by lx.rest.length
decreasing_by exact next_rest_length_lt ‹_›

def drain (lx : Lexer) : List Token × Lexer :=
  lx.drainOnto []

theorem drainOnto_eq (acc : List Token) (lx : Lexer) :
    lx.drainOnto acc = (acc.reverse ++ lx.drain.1, lx.drain.2) := by
  unfold drain
  induction hn : lx.rest.length using Nat.strongRecOn generalizing acc lx with
  | ind n ih =>
    rw [drainOnto.eq_def acc lx, drainOnto.eq_def [] lx]
    by_cases h : lx.next.1.kind = .eof
    · simp [h]
    · have hlt := next_rest_length_lt h
      simp only [h, dite_false]
      rw [ih _ (hn ▸ hlt) _ _ rfl, ih _ (hn ▸ hlt) [lx.next.1] _ rfl]
      simp

theorem drain_of_eof {lx : Lexer} (h : lx.next.1.kind = .eof) : lx.drain = ([], lx.next.2) := by
  rw [drain, drainOnto]
  simp [h]

theorem drain_of_ne_eof {lx : Lexer} (h : lx.next.1.kind ≠ .eof) :
    lx.drain = (lx.next.1 :: lx.next.2.drain.1, lx.next.2.drain.2) := by
  rw [drain, drainOnto]
  simp [h, drainOnto_eq]

def takeOnto (acc : List Token) : Nat → Lexer → List Token × Lexer
  | 0, lx => (acc.reverse, lx)
  | n + 1, lx =>
    match lx.next? with
    | (none, after) => (acc.reverse, after)
    | (some t, after) => takeOnto (t :: acc) n after

def take (n : Nat) (lx : Lexer) : List Token × Lexer :=
  takeOnto [] n lx

def skip : Nat → Lexer → Lexer
  | 0, lx => lx
  | n + 1, lx => skip n lx.next.2

end Lexer

def lex (bytes : List UInt8) : List Token :=
  let (tokens, after) := (Lexer.ofBytes bytes).drain
  tokens ++ [.eof after.offset]

def listing (source : String) : String :=
  String.join ((lex (utf8 source)).map Token.entry)

end LetLang
