import LetLang.Tree.Parser
import LetLang.Proofs.Stream
import LetLang.Proofs.Segment

namespace LetLang

def Lexer.value (lx : Lexer) : List Token :=
  lx.tokens.takeWhile (fun t => t.kind ≠ .punctuation .semicolon)

def Lexer.afterValue (lx : Lexer) : Lexer :=
  lx.skip lx.value.length

namespace Lexer

theorem ne_semicolon_of_mem_value {lx : Lexer} {t : Token} (h : t ∈ lx.value) :
    t.kind ≠ .punctuation .semicolon := by
  have hall := List.all_takeWhile (p := fun t : Token => decide (t.kind ≠ .punctuation .semicolon))
    (l := lx.tokens)
  exact of_decide_eq_true (List.all_eq_true.mp hall t h)

theorem tokens_afterValue (lx : Lexer) :
    lx.afterValue.tokens = lx.tokens.dropWhile (fun t => t.kind ≠ .punctuation .semicolon) := by
  rw [afterValue, tokens_skip, value, drop_length_takeWhile]

theorem value_append_tokens (lx : Lexer) : lx.value ++ lx.afterValue.tokens = lx.tokens := by
  rw [tokens_afterValue, value, List.takeWhile_append_dropWhile]

theorem afterValue_kind (lx : Lexer) :
    lx.afterValue.next.1.kind = .punctuation .semicolon ∨ lx.afterValue.next.1.kind = .eof := by
  rcases eq_or_ne lx.afterValue.next.1.kind .eof with he | he
  · exact .inr he
  · have hh : lx.afterValue.next.1 ∈
        (lx.tokens.dropWhile (fun t => t.kind ≠ .punctuation .semicolon)).head? := by
      rw [← tokens_afterValue, tokens_of_ne_eof he]
      rfl
    exact .inl (by simpa using not_of_mem_head?_dropWhile hh)

end Lexer

namespace Parser

def window (lx : Lexer) (fs : Array Fault) : Parser :=
  ⟨(lx.skip 2),lx.next.1,(lx.skip 1).next.1,fs⟩

variable (lx : Lexer) (fs : Array Fault)

theorem expect_window (k : Kind) :
    (window lx fs).expect k =
      if (lx.skip 1).next.1.kind = k then .ok (window (lx.skip 1) fs)
      else .error (.unexpectedAt k (lx.skip 1).next.1) := rfl

theorem skipValue_window : (window lx fs).skipValue = window lx.afterValue fs := by
  induction lx using Lexer.stream_induction with
  | eof lx he =>
    have hv : lx.afterValue = lx := by
      rw [Lexer.afterValue, Lexer.value, Lexer.tokens_of_eof he]
      rfl
    rw [hv, skipValue]
    simp [window, atSemicolon, atEof, he]
  | token lx he ih =>
    rcases eq_or_ne lx.next.1.kind (.punctuation .semicolon) with hs | hs
    · have hv : lx.afterValue = lx := by
        rw [Lexer.afterValue, Lexer.value, Lexer.tokens_of_ne_eof he,
          List.takeWhile_cons_of_neg (by simpa using hs)]
        rfl
      rw [hv, skipValue]
      simp [window, atSemicolon, hs]
    · have hv : lx.afterValue = lx.next.2.afterValue := by
        rw [Lexer.afterValue, Lexer.value, Lexer.tokens_of_ne_eof he,
          List.takeWhile_cons_of_pos (by simpa using hs)]
        rfl
      have hp : ¬(window lx fs).atSemicolon ∧ ¬(window lx fs).atEof := by
        simp [window, atSemicolon, atEof, hs, he]
      rw [hv, skipValue, if_neg hp.1, dif_neg hp.2]
      exact ih

section
variable {lx}

theorem letStatement_of_ne_ident (hi : (lx.skip 1).next.1.kind ≠ .ident) :
    (window lx fs).letStatement =
      (.error (.unexpectedAt .ident (lx.skip 1).next.1), window lx fs) := by
  simp only [letStatement, expect_window, if_neg hi]

variable (hi : (lx.skip 1).next.1.kind = .ident)
include hi

theorem letStatement_of_ne_assign (ha : (lx.skip 2).next.1.kind ≠ .operator .assign) :
    (window lx fs).letStatement =
      (.error (.unexpectedAt (.operator .assign) (lx.skip 2).next.1), window (lx.skip 1) fs) := by
  have hq : (window (lx.skip 1) fs).expect (.operator .assign) =
      .error (.unexpectedAt (.operator .assign) (lx.skip 2).next.1) := by
    rw [expect_window]
    exact if_neg ha
  simp only [letStatement, expect_window lx, if_pos hi, hq]

variable (ha : (lx.skip 2).next.1.kind = .operator .assign)
include ha

theorem letStatement_of_assign :
    (window lx fs).letStatement =
      if (window (lx.skip 2).afterValue fs).atEof then
        (.error (.unexpectedToken (.punctuation .semicolon) .eof
          (lx.skip 2).afterValue.next.1.span), window (lx.skip 2).afterValue fs)
      else
        (.ok ⟨lx.next.1,.ofToken (lx.skip 1).next.1,none,
            lx.next.1.span.merge (lx.skip 2).afterValue.next.1.span⟩,
          window (lx.skip 2).afterValue fs) := by
  have hq : (window (lx.skip 1) fs).expect (.operator .assign) = .ok (window (lx.skip 2) fs) := by
    rw [expect_window]
    exact if_pos ha
  simp only [letStatement, expect_window lx, if_pos hi, hq, skipValue_window]
  rfl

theorem letStatement_of_open (he : (lx.skip 2).afterValue.next.1.kind = .eof) :
    (window lx fs).letStatement =
      (.error (.unexpectedAt (.punctuation .semicolon) (lx.skip 2).afterValue.next.1),
        window (lx.skip 2).afterValue fs) := by
  have hat : (window (lx.skip 2).afterValue fs).atEof := by simpa [atEof, window] using he
  rw [letStatement_of_assign fs hi ha, if_pos hat, Fault.unexpectedAt, he]

theorem letStatement_of_closed (he : (lx.skip 2).afterValue.next.1.kind ≠ .eof) :
    (window lx fs).letStatement =
      (.ok ⟨lx.next.1,.ofToken (lx.skip 1).next.1,none,
          ⟨lx.next.1.span.start,(lx.skip 2).afterValue.next.1.span.stop⟩⟩,
        window (lx.skip 2).afterValue fs) := by
  have hat : ¬(window (lx.skip 2).afterValue fs).atEof := by simpa [atEof, window] using he
  have hspan : lx.next.1.span.merge (lx.skip 2).afterValue.next.1.span =
      ⟨lx.next.1.span.start,(lx.skip 2).afterValue.next.1.span.stop⟩ := by
    have h := Lexer.merge_next_skip (1 + (lx.skip 2).value.length) lx
    rwa [Lexer.skip_add] at h
  rw [letStatement_of_assign fs hi ha, if_neg hat, hspan]

end

end Parser

end LetLang
