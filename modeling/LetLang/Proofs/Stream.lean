import LetLang.Token.Lexer

namespace LetLang

theorem drop_length_takeWhile {α : Type} (p : α → Bool) (xs : List α) :
    xs.drop (xs.takeWhile p).length = xs.dropWhile p := by
  induction xs with
  | nil => rfl
  | cons x xs ih =>
    by_cases h : p x
    · rw [List.takeWhile_cons_of_pos h, List.dropWhile_cons_of_pos h]
      exact ih
    · rw [List.takeWhile_cons_of_neg h, List.dropWhile_cons_of_neg h]
      rfl

theorem take_length_takeWhile {α : Type} (p : α → Bool) (xs : List α) :
    xs.take (xs.takeWhile p).length = xs.takeWhile p :=
  (List.prefix_iff_eq_take.mp (List.takeWhile_prefix p)).symm

theorem not_of_mem_head?_dropWhile {α : Type} {p : α → Bool} {xs : List α} {x : α}
    (h : x ∈ (xs.dropWhile p).head?) : ¬p x := by
  have hn := List.head?_dropWhile_not p xs
  rw [Option.mem_def.mp h] at hn
  simpa using hn

namespace Lexer

open Text

def tokens (lx : Lexer) : List Token :=
  lx.drain.1

def last (lx : Lexer) : Token :=
  .eof (lx.offset + lx.rest.length)

theorem next_blank {b : UInt8} (h : isBlank b) (n : Nat) (bs : List UInt8) :
    next ⟨n,b :: bs⟩ = next ⟨n + 1,bs⟩ := by
  simp only [next, skipBlanks, skipBlanksFrom, h, if_true]

theorem next_cons {b : UInt8} (h : ¬isBlank b) (n : Nat) (bs : List UInt8) :
    next ⟨n,b :: bs⟩ =
      (⟨(lexeme b bs).1,latin (b :: bs.take (lexeme b bs).2),⟨n,n + 1 + (lexeme b bs).2⟩⟩,
        ⟨n + 1 + (lexeme b bs).2,bs.drop (lexeme b bs).2⟩) := by
  simp only [next, skipBlanks, skipBlanksFrom, h, Bool.false_eq_true, if_false]

@[elab_as_elim]
theorem scan_induction {motive : Lexer → Prop} (lx : Lexer)
    (nil : ∀ n, motive ⟨n,[]⟩)
    (blank : ∀ n b bs, isBlank b → motive ⟨n + 1,bs⟩ → motive ⟨n,b :: bs⟩)
    (token : ∀ n b bs, ¬isBlank b →
      motive ⟨n + 1 + (lexeme b bs).2,bs.drop (lexeme b bs).2⟩ → motive ⟨n,b :: bs⟩) :
    motive lx := by
  obtain ⟨n,bs⟩ := lx
  induction hl : bs.length using Nat.strongRecOn generalizing n bs with
  | ind l ih =>
    cases bs with
    | nil => exact nil n
    | cons b bs =>
      simp only [List.length_cons] at hl
      by_cases hb : isBlank b
      · exact blank n b bs hb (ih _ (by omega) _ _ rfl)
      · have hd : (bs.drop (lexeme b bs).2).length < l := by
          rw [List.length_drop]
          omega
        exact token n b bs hb (ih _ hd _ _ rfl)

@[elab_as_elim]
theorem stream_induction {motive : Lexer → Prop} (lx : Lexer)
    (eof : ∀ lx : Lexer, lx.next.1.kind = .eof → motive lx)
    (token : ∀ lx : Lexer, lx.next.1.kind ≠ .eof → motive lx.next.2 → motive lx) : motive lx := by
  induction hl : lx.rest.length using Nat.strongRecOn generalizing lx with
  | ind l ih =>
    by_cases he : lx.next.1.kind = .eof
    · exact eof lx he
    · exact token lx he (ih _ (hl ▸ next_rest_length_lt he) _ rfl)

theorem next_last (lx : Lexer) : lx.next.2.last = lx.last := by
  induction lx using scan_induction with
  | nil n => rfl
  | blank n b bs hb ih =>
    rw [next_blank hb, ih]
    simp only [last, List.length_cons]
    congr 1
    omega
  | token n b bs hb ih =>
    have hle := lexeme_le_length b bs
    rw [next_cons hb]
    simp only [last, List.length_cons, List.length_drop]
    congr 1
    omega

theorem next_of_eof {lx : Lexer} (h : lx.next.1.kind = .eof) :
    lx.next = (lx.last, ⟨lx.offset + lx.rest.length,[]⟩) := by
  induction lx using scan_induction with
  | nil n => rfl
  | blank n b bs hb ih =>
    rw [next_blank hb] at h ⊢
    rw [ih h]
    simp only [last, List.length_cons, Nat.add_assoc, Nat.add_comm 1]
  | token n b bs hb ih =>
    rw [next_cons hb] at h
    exact absurd h (lexeme_ne_eof b bs)

theorem next_next_of_eof {lx : Lexer} (h : lx.next.1.kind = .eof) : lx.next.2.next = lx.next := by
  rw [next_of_eof h]
  rfl

theorem tokens_of_eof {lx : Lexer} (h : lx.next.1.kind = .eof) : lx.tokens = [] := by
  rw [tokens, drain_of_eof h]

theorem tokens_of_ne_eof {lx : Lexer} (h : lx.next.1.kind ≠ .eof) :
    lx.tokens = lx.next.1 :: lx.next.2.tokens := by
  rw [tokens, drain_of_ne_eof h]
  rfl

theorem tokens_nil (n : Nat) : tokens ⟨n,[]⟩ = [] :=
  tokens_of_eof rfl

theorem tokens_blank {b : UInt8} (h : isBlank b) (n : Nat) (bs : List UInt8) :
    tokens ⟨n,b :: bs⟩ = tokens ⟨n + 1,bs⟩ := by
  have hn := next_blank h n bs
  by_cases he : (next ⟨n + 1,bs⟩).1.kind = .eof
  · rw [tokens_of_eof he, tokens_of_eof (hn ▸ he)]
  · rw [tokens_of_ne_eof he, tokens_of_ne_eof (hn.symm ▸ he), hn]

theorem tokens_cons {b : UInt8} (h : ¬isBlank b) (n : Nat) (bs : List UInt8) :
    tokens ⟨n,b :: bs⟩ =
      ⟨(lexeme b bs).1,latin (b :: bs.take (lexeme b bs).2),⟨n,n + 1 + (lexeme b bs).2⟩⟩ ::
        tokens ⟨n + 1 + (lexeme b bs).2,bs.drop (lexeme b bs).2⟩ := by
  have he : (next ⟨n,b :: bs⟩).1.kind ≠ .eof := by
    rw [next_cons h]
    exact lexeme_ne_eof b bs
  rw [tokens_of_ne_eof he, next_cons h]

theorem last_of_eof {lx : Lexer} (h : lx.next.1.kind = .eof) : lx.last = lx.next.1 := by
  rw [next_of_eof h]

theorem drain_offset (lx : Lexer) : lx.drain.2.offset = lx.offset + lx.rest.length := by
  have hd : Token.eof lx.drain.2.offset = lx.last := by
    induction lx using stream_induction with
    | eof lx he =>
      rw [drain_of_eof he, next_of_eof he]
      rfl
    | token lx he ih =>
      rw [drain_of_ne_eof he]
      exact ih.trans lx.next_last
  exact congrArg (fun t => t.span.start) hd

theorem lex_eq (bytes : List UInt8) :
    lex bytes = (ofBytes bytes).tokens ++ [(ofBytes bytes).last] := by
  simp only [lex, tokens, last, drain_offset]

theorem skip_succ (n : Nat) (lx : Lexer) : lx.skip (n + 1) = (lx.skip n).next.2 := by
  induction n generalizing lx with
  | zero => rfl
  | succ n ih => exact ih lx.next.2

theorem skip_add (m n : Nat) (lx : Lexer) : lx.skip (m + n) = (lx.skip m).skip n := by
  induction n with
  | zero => rfl
  | succ n ih => rw [← Nat.add_assoc, skip_succ, skip_succ, ih]

theorem last_skip (n : Nat) (lx : Lexer) : (lx.skip n).last = lx.last := by
  induction n generalizing lx with
  | zero => rfl
  | succ n ih => exact (ih lx.next.2).trans lx.next_last

theorem tokens_next (lx : Lexer) : lx.next.2.tokens = lx.tokens.drop 1 := by
  induction lx using stream_induction with
  | eof lx he =>
    have hn : lx.next.2.next.1.kind = .eof := by rw [next_next_of_eof he, he]
    rw [tokens_of_eof he, tokens_of_eof hn]
    rfl
  | token lx he _ =>
    rw [tokens_of_ne_eof he]
    rfl

theorem tokens_skip (n : Nat) (lx : Lexer) : (lx.skip n).tokens = lx.tokens.drop n := by
  induction n generalizing lx with
  | zero => rfl
  | succ n ih =>
    rw [skip, ih, tokens_next, List.drop_drop, Nat.add_comm]

theorem next_eq_head (lx : Lexer) : lx.next.1 = lx.tokens.headD lx.last := by
  induction lx using stream_induction with
  | eof lx he =>
    rw [tokens_of_eof he, last_of_eof he]
    rfl
  | token lx he _ =>
    rw [tokens_of_ne_eof he]
    rfl

theorem next_skip (n : Nat) (lx : Lexer) : (lx.skip n).next.1 = lx.tokens.getD n lx.last := by
  rw [next_eq_head, tokens_skip, last_skip]
  simp [List.headD_eq_head?_getD, List.head?_drop]

theorem offset_le_start (lx : Lexer) : lx.offset ≤ lx.next.1.span.start := by
  induction lx using scan_induction with
  | nil n => exact Nat.le_refl n
  | blank n b bs hb ih =>
    rw [next_blank hb]
    exact Nat.le_trans (Nat.le_succ n) ih
  | token n b bs hb ih => simp only [next_cons hb, Nat.le_refl]

theorem start_le_stop (lx : Lexer) : lx.next.1.span.start ≤ lx.next.1.span.stop := by
  induction lx using scan_induction with
  | nil n => exact Nat.le_refl n
  | blank n b bs hb ih => rwa [next_blank hb]
  | token n b bs hb ih =>
    rw [next_cons hb]
    simp only
    omega

theorem next_offset (lx : Lexer) : lx.next.2.offset = lx.next.1.span.stop := by
  induction lx using scan_induction with
  | nil n => rfl
  | blank n b bs hb ih => rwa [next_blank hb]
  | token n b bs hb ih => rw [next_cons hb]

theorem offset_le_skip (n : Nat) (lx : Lexer) : lx.offset ≤ (lx.skip n).offset := by
  induction n generalizing lx with
  | zero => exact Nat.le_refl _
  | succ n ih =>
    have h1 := lx.offset_le_start
    have h2 := lx.start_le_stop
    have h3 := lx.next_offset
    have h4 : lx.next.2.offset ≤ (lx.skip (n + 1)).offset := ih lx.next.2
    omega

theorem merge_next_skip (n : Nat) (lx : Lexer) :
    lx.next.1.span.merge (lx.next.2.skip n).next.1.span =
      ⟨lx.next.1.span.start,(lx.next.2.skip n).next.1.span.stop⟩ := by
  have h1 := lx.start_le_stop
  have h2 := lx.next_offset
  have h3 := offset_le_skip n lx.next.2
  have h4 := (lx.next.2.skip n).offset_le_start
  have h5 := (lx.next.2.skip n).start_le_stop
  simp only [Span.merge, Span.mk.injEq]
  omega

end Lexer

end LetLang
