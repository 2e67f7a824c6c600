import Mathlib.Data.List.TakeWhile
import Mathlib.Logic.Function.Iterate
import LetLang.Proofs.Tokenization
import LetLang.Proofs.Attempt

namespace LetLang

open LetLang.Parser (StandsAt Reachable)

section
variable {α : Type} {f run : α → α} {stop : α → Prop}

structure Repeats (f : α → α) (stop : α → Prop) (run : α → α) : Prop where
  stopped {x : α} (h : stop x) : run x = x
  again {x : α} (h : ¬stop x) : run x = run (f x)

def EndsWithin (f : α → α) (stop : α → Prop) (run : α → α) (n : Nat) (x : α) : Prop :=
  ∃ k ≤ n, run x = f^[k] x ∧ stop (f^[k] x) ∧ ∀ j < k, ¬stop (f^[j] x)

-- By induction on the measure, which every step lessens in the states where the invariant holds.
theorem Repeats.endsWithin (h : Repeats f stop run) (inv : α → Prop) (measure : α → Nat)
    (hstep : ∀ x, inv x → ¬stop x → inv (f x) ∧ measure (f x) < measure x) {x : α} (hx : inv x) :
    EndsWithin f stop run (measure x) x := by
  induction hm : measure x using Nat.strongRecOn generalizing x with
  | ind m ih =>
    by_cases hs : stop x
    · exact ⟨0,Nat.zero_le m,h.stopped hs,hs,fun j hj => absurd hj (Nat.not_lt_zero j)⟩
    · obtain ⟨hinv,hlt⟩ := hstep x hx hs
      obtain ⟨k,hk,hrun,hstop,hbefore⟩ := ih _ (hm ▸ hlt) hinv rfl
      refine ⟨k + 1,by omega,(h.again hs).trans hrun,hstop,?_⟩
      intro j hj
      cases j with
      | zero => exact hs
      | succ j => exact hbefore j (Nat.lt_of_succ_lt_succ hj)

end

namespace Lexer

open Text

theorem length_tokens_le (lx : Lexer) :
    lx.tokens.length ≤ lx.rest.countP (fun b => !isBlank b) := by
  induction lx using scan_induction with
  | nil n =>
    rw [tokens_nil]
    exact Nat.zero_le _
  | blank n b bs hb ih =>
    rw [tokens_blank hb, List.countP_cons_of_neg (by simpa using hb)]
    exact ih
  | token n b bs hb ih =>
    have hle := (List.drop_sublist (lexeme b bs).2 bs).countP_le (p := fun b => !isBlank b)
    rw [tokens_cons hb, List.length_cons, List.countP_cons_of_pos (by simpa using hb)]
    exact Nat.succ_le_succ (Nat.le_trans ih hle)

variable {bytes : List UInt8} {lx : Lexer}

theorem rest_next (hr : lx.rest = bytes.drop lx.offset) :
    lx.next.2.rest = bytes.drop lx.next.2.offset := by
  induction lx using scan_induction with
  | nil n => exact hr
  | blank n b bs hb ih =>
    rw [next_blank hb]
    exact ih (drop_of_drop hr.symm 0)
  | token n b bs hb _ =>
    rw [next_cons hb]
    exact drop_of_drop hr.symm _

theorem rest_skip (hr : lx.rest = bytes.drop lx.offset) (n : Nat) :
    (lx.skip n).rest = bytes.drop (lx.skip n).offset := by
  induction n generalizing lx with
  | zero => exact hr
  | succ n ih => exact ih (rest_next hr)

theorem length_tokens_le_countP (hr : lx.rest = bytes.drop lx.offset) :
    lx.tokens.length ≤ (bytes.drop lx.next.1.span.start).countP (fun b => !isBlank b) := by
  induction lx using scan_induction with
  | nil n =>
    rw [tokens_nil]
    exact Nat.zero_le _
  | blank n b bs hb ih =>
    rw [tokens_blank hb, next_blank hb]
    exact ih (drop_of_drop hr.symm 0)
  | token n b bs hb _ =>
    have hle := length_tokens_le ⟨n,b :: bs⟩
    rw [hr] at hle
    rw [next_cons hb]
    exact hle

theorem takeWhile_next (lx : Lexer) :
    (lx.next.1 :: lx.next.2.tokens).takeWhile (fun t => t.kind ≠ .eof) = lx.tokens := by
  rcases eq_or_ne lx.next.1.kind .eof with he | he
  · rw [List.takeWhile_cons_of_neg (by simpa using he), tokens_of_eof he]
  · rw [← tokens_of_ne_eof he, List.takeWhile_eq_self_iff]
    intro t ht
    simpa using kind_ne_eof_of_mem ht

end Lexer

namespace Parser

def pending (p : Parser) : List Token :=
  (p.current :: p.ahead :: p.lexer.tokens).takeWhile (fun t => t.kind ≠ .eof)

theorem pending_window (lx : Lexer) (fs : Array Fault) : (window lx fs).pending = lx.tokens := by
  rcases eq_or_ne lx.next.1.kind .eof with he | he
  · rw [pending, window, List.takeWhile_cons_of_neg (by simpa using he), Lexer.tokens_of_eof he]
  · rw [pending, window, List.takeWhile_cons_of_pos (by simpa using he), Lexer.tokens_of_ne_eof he]
    exact congrArg (lx.next.1 :: ·) lx.next.2.takeWhile_next

variable {lx : Lexer} {p : Parser} {i j : Nat}

theorem StandsAt.pending_eq (h : p.StandsAt lx i) : p.pending = lx.tokens.drop i := by
  rw [h.eq_window, pending_window, Lexer.tokens_skip]

theorem StandsAt.length_pending_lt {q : Parser} (h : p.StandsAt lx i) (he : ¬p.atEof)
    (hq : q.StandsAt lx j) (hij : i < j) : q.pending.length < p.pending.length := by
  have hi : i < lx.tokens.length := Nat.lt_of_not_le (fun hle => he (h.atEof_iff.mpr hle))
  rw [h.pending_eq, hq.pending_eq, List.length_drop, List.length_drop]
  omega

theorem Reachable.length_pending_advance_lt (h : p.Reachable lx) (he : ¬p.atEof) :
    p.advance.pending.length < p.pending.length := by
  obtain ⟨i,hi⟩ := h.standsAt
  exact hi.length_pending_lt he hi.advance (Nat.lt_succ_self i)

theorem Reachable.length_pending_le {bytes : List UInt8} (h : p.Reachable lx)
    (hr : lx.rest = bytes.drop lx.offset) :
    p.pending.length ≤ (bytes.drop p.current.span.start).countP (fun b => !Text.isBlank b) := by
  obtain ⟨i,hi⟩ := h.standsAt
  rw [hi.pending_eq, ← Lexer.tokens_skip, hi.current, ← Lexer.next_skip_eq_token]
  exact Lexer.length_tokens_le_countP (Lexer.rest_skip hr i)

theorem repeats_skipValue : Repeats advance (fun p => p.atSemicolon ∨ p.atEof) skipValue where
  stopped h := by
    rcases h with hs | he
    · rw [skipValue, if_pos hs]
    · rw [skipValue, dif_pos he, ite_self]
  again h := by
    obtain ⟨hs,he⟩ := not_or.mp h
    rw [skipValue, if_neg hs, dif_neg he]

theorem endsWithin_skipValue (h : p.Reachable lx) :
    EndsWithin advance (fun p => p.atSemicolon ∨ p.atEof) skipValue p.pending.length p := by
  refine repeats_skipValue.endsWithin (Reachable lx) (fun p => p.pending.length) ?_ h
  intro q hq hstop
  exact ⟨hq.advance,hq.length_pending_advance_lt (not_or.mp hstop).2⟩

end Parser

namespace ParserLoop

variable {lx : Lexer} {s : ParserLoop}

theorem length_pending_step_lt (h : s.parser.Reachable lx) (he : ¬s.parser.atEof) :
    s.step.parser.pending.length < s.parser.pending.length := by
  obtain ⟨i,hi⟩ := h.standsAt
  obtain ⟨j,hij,hj,_⟩ := goesOn_step hi
  exact hi.length_pending_lt he hj hij

theorem repeats_run : Repeats step (fun s => s.parser.atEof) run where
  stopped h := run_of_atEof h
  again h := run_of_not_atEof h

theorem endsWithin_run (h : s.parser.Reachable lx) :
    EndsWithin step (fun s => s.parser.atEof) run s.parser.pending.length s := by
  refine repeats_run.endsWithin (fun s => s.parser.Reachable lx)
    (fun s => s.parser.pending.length) ?_ h
  intro t ht hstop
  exact ⟨reachable_step ht,length_pending_step_lt ht hstop⟩

theorem pending_shrinks (bytes : List UInt8) (n : Nat) :
    (∀ p : Parser, p.Reachable ((Lexer.ofBytes bytes).skip n) →
      p.pending.length ≤ (bytes.drop p.current.span.start).countP (fun b => !Text.isBlank b) ∧
        (¬p.atSemicolon → ¬p.atEof → p.advance.pending.length < p.pending.length) ∧
        EndsWithin Parser.advance (fun q => q.atSemicolon ∨ q.atEof) Parser.skipValue
          p.pending.length p) ∧
    (∀ s : ParserLoop, s.parser.Reachable ((Lexer.ofBytes bytes).skip n) →
      (¬s.parser.atEof → s.step.parser.pending.length < s.parser.pending.length) ∧
        EndsWithin step (fun t => t.parser.atEof) run s.parser.pending.length s) ∧
    (Parser.ofLexer ((Lexer.ofBytes bytes).skip n)).pending =
      ((Lexer.ofBytes bytes).skip n).tokens := by
  refine ⟨?_,?_,Parser.pending_window _ #[]⟩
  · intro p h
    have hrest : (Lexer.ofBytes bytes).rest = bytes.drop (Lexer.ofBytes bytes).offset := rfl
    have hbytes := h.length_pending_le (Lexer.rest_skip hrest n)
    exact ⟨hbytes,fun _ he => h.length_pending_advance_lt he,Parser.endsWithin_skipValue h⟩
  · intro s h
    exact ⟨length_pending_step_lt h,endsWithin_run h⟩

theorem pending_shrinks_truncated :
    (Parser.ofLexer (.ofText "let a = b")).advance.advance.Reachable (.ofText "let a = b") ∧
      ¬(Parser.ofLexer (.ofText "let a = b")).advance.advance.atSemicolon ∧
      ¬(Parser.ofLexer (.ofText "let a = b")).advance.advance.atEof ∧
      (Parser.ofLexer (.ofText "let a = b")).advance.advance.advance.pending.length <
        (Parser.ofLexer (.ofText "let a = b")).advance.advance.pending.length ∧
      ¬(ofParser (.ofLexer (.ofText "let a = b"))).parser.atEof ∧
      (ofParser (.ofLexer (.ofText "let a = b"))).step.parser.pending.length <
        (ofParser (.ofLexer (.ofText "let a = b"))).parser.pending.length := by
  have hvalue : (Parser.ofLexer (.ofText "let a = b")).advance.advance.Reachable
      (.ofText "let a = b") := .advance (.advance .ofLexer)
  have hsemicolon : ¬(Parser.ofLexer (.ofText "let a = b")).advance.advance.atSemicolon := by
    decide +kernel
  have heof : ¬(Parser.ofLexer (.ofText "let a = b")).advance.advance.atEof := by decide +kernel
  have hfirst : ¬(ofParser (.ofLexer (.ofText "let a = b"))).parser.atEof := by decide +kernel
  obtain ⟨hmoves,hturns,_⟩ := pending_shrinks (Text.utf8 "let a = b") 0
  exact ⟨hvalue,hsemicolon,heof,(hmoves _ hvalue).2.1 hsemicolon heof,hfirst,
    (hturns (ofParser (.ofLexer (.ofText "let a = b"))) .ofLexer).1 hfirst⟩

end ParserLoop

end LetLang
