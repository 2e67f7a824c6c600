import LetLang.Proofs.Expectation
import LetLang.Proofs.Composition
import LetLang.Proofs.Tokenization

namespace LetLang

open Text

theorem length_takeWhile_le_append (p : UInt8 → Bool) (bs cs : List UInt8) :
    (bs.takeWhile p).length ≤ ((bs ++ cs).takeWhile p).length := by
  rw [List.takeWhile_append]
  split
  · rw [List.length_append]
    omega
  · exact Nat.le_refl _

theorem lexeme_le_append (b : UInt8) (bs cs : List UInt8) :
    (lexeme b bs).2 ≤ (lexeme b (bs ++ cs)).2 := by
  rcases letter_or_digit_or_other b with hl | hd | ⟨hl,hd⟩
  · rw [lexeme_of_letter hl, lexeme_of_letter hl]
    exact length_takeWhile_le_append isLetter bs cs
  · rw [lexeme_of_digit hd, lexeme_of_digit hd]
    exact length_takeWhile_le_append isDigit bs cs
  rcases lexeme_sign_cases hl hd bs with ⟨h,_⟩ | ⟨c,ds,o,rfl,h,ho⟩
  · rw [h]
    exact Nat.zero_le _
  · have hjoin : lexeme b ((c :: ds) ++ cs) = (.operator o, 1) := by
      rw [lexeme_of_sign hl hd, List.cons_append, doubleSign?_eq_some_iff.mpr ho]
    exact Nat.le_of_eq (congrArg Prod.snd (h.trans hjoin.symm))

theorem lexeme_of_semicolon {b : UInt8} {bs : List UInt8}
    (h : (lexeme b bs).1 = .punctuation .semicolon) (cs : List UInt8) :
    lexeme b cs = (.punctuation .semicolon, 0) := by
  rw [eq_of_lexeme_semicolon h]
  exact lexeme_unique spelled_semicolon (fun c _ => Bool.false_ne_true)

namespace Lexer

theorem offset_lt_stop {lx : Lexer} {t : Token} (h : t ∈ lx.tokens) :
    lx.offset < t.span.stop := by
  induction lx using scan_induction with
  | nil n =>
    rw [tokens_nil] at h
    cases h
  | blank n b bs hb ih =>
    rw [tokens_blank hb] at h
    exact Nat.lt_trans (Nat.lt_succ_self n) (ih h)
  | token n b bs hb ih =>
    rw [tokens_cons hb] at h
    rcases List.mem_cons.mp h with rfl | h
    · simp only
      omega
    · have hlt := ih h
      simp only at hlt ⊢
      omega

def Reaches (n : Nat) (t : Token) : Prop :=
  n ≤ t.span.stop ∧ (t.kind = .punctuation .semicolon → n < t.span.stop)

theorem reaches_of_mem {lx : Lexer} {t : Token} {n : Nat} (h : t ∈ lx.tokens)
    (hn : n ≤ lx.offset) : Reaches n t := by
  have hlt : n < t.span.stop := Nat.lt_of_le_of_lt hn (offset_lt_stop h)
  exact ⟨Nat.le_of_lt hlt,fun _ => hlt⟩

theorem reaches_eof {n m : Nat} (h : n ≤ m) : Reaches n (.eof m) :=
  ⟨h,fun hk => nomatch hk⟩

-- Nothing is settled by a token that more bytes may extend.
theorem reaches_of_open {b : UInt8} {bs : List UInt8} (hb : ¬isBlank b)
    (hend : bs.drop (lexeme b bs).2 = []) (hk : (lexeme b bs).1 ≠ .punctuation .semicolon) (n : Nat)
    (cs : List UInt8) :
    ∀ u ∈ tokens ⟨n,b :: (bs ++ cs)⟩, Reaches (n + (b :: bs).length) u := by
  have hlen := List.drop_eq_nil_iff.mp hend
  have hle := lexeme_le_append b bs cs
  simp only [tokens_cons hb, List.length_cons]
  refine List.forall_mem_cons.mpr ⟨⟨?_,fun hs => ?_⟩,fun u hu => reaches_of_mem hu ?_⟩
  · simp only
    omega
  · exact absurd (congrArg Prod.fst (lexeme_of_semicolon hs bs)) hk
  · simp only
    omega

theorem exists_settled (lx : Lexer) :
    ∃ ts, ∀ cs, ∃ us, tokens ⟨lx.offset,lx.rest ++ cs⟩ = ts ++ us ∧
      ∀ u ∈ us, Reaches (lx.offset + lx.rest.length) u := by
  induction lx using scan_induction with
  | nil n => exact ⟨[],fun cs => ⟨_,rfl,fun u hu => reaches_of_mem hu (Nat.le_refl n)⟩⟩
  | blank n b bs hb ih =>
    obtain ⟨ts,hts⟩ := ih
    refine ⟨ts,fun cs => ?_⟩
    obtain ⟨us,heq,hus⟩ := hts cs
    have hend : n + (b :: bs).length = n + 1 + bs.length := by
      rw [List.length_cons]
      omega
    simp only [List.cons_append, tokens_blank hb, hend]
    exact ⟨us,heq,hus⟩
  | token n b bs hb ih =>
    have hle := lexeme_le_length b bs
    by_cases hopen : bs.drop (lexeme b bs).2 = [] ∧ (lexeme b bs).1 ≠ .punctuation .semicolon
    · exact ⟨[],fun cs => ⟨_,rfl,reaches_of_open hb hopen.1 hopen.2 n cs⟩⟩
    · have hjoin (cs : List UInt8) : lexeme b (bs ++ cs) = lexeme b bs := by
        refine lexeme_append (fun hd c _ => ?_)
        have hk : (lexeme b bs).1 = .punctuation .semicolon := by
          simpa [hd] using hopen
        rw [hk]
        exact Bool.false_ne_true
      obtain ⟨ts,hts⟩ := ih
      refine ⟨(next ⟨n,b :: bs⟩).1 :: ts,fun cs => ?_⟩
      obtain ⟨us,heq,hus⟩ := hts cs
      have hend : n + (b :: bs).length =
          n + 1 + (lexeme b bs).2 + (bs.drop (lexeme b bs).2).length := by
        rw [List.length_cons, List.length_drop]
        omega
      refine ⟨us,?_,by simpa only [hend] using hus⟩
      simp only [List.cons_append, tokens_cons hb, next_cons hb, hjoin,
        List.take_append_of_le_length hle, List.drop_append_of_le_length hle, heq]

theorem exists_settled_lex (as : List UInt8) :
    ∃ ts, ∀ cs, ∃ us, lex (as ++ cs) = ts ++ us ∧ ∀ u ∈ us, Reaches as.length u := by
  obtain ⟨ts,hts⟩ := exists_settled (ofBytes as)
  refine ⟨ts,fun cs => ?_⟩
  obtain ⟨us,heq,hus⟩ := hts cs
  have htok : (ofBytes (as ++ cs)).tokens = ts ++ us := heq
  refine ⟨us ++ [.eof (as ++ cs).length],?_,fun u hu => ?_⟩
  · rw [lex_eq, htok, last_ofBytes, List.append_assoc]
  · rcases List.mem_append.mp hu with hu | hu
    · simpa only [ofBytes, Nat.zero_add] using hus u hu
    · obtain rfl := List.mem_singleton.mp hu
      exact reaches_eof (List.prefix_append as cs).length_le

end Lexer

section
variable {n : Nat} {us : List Token} (h : ∀ u ∈ us, Lexer.Reaches n u) (ts : List Token)
include h

theorem filter_tokens_before : (ts ++ us).filter (fun t => t.span.stop < n) =
    ts.filter (fun t => t.span.stop < n) := by
  have hnil : us.filter (fun t => t.span.stop < n) = [] := by
    refine List.filter_eq_nil_iff.mpr (fun u hu => ?_)
    rw [decide_eq_true_eq, Nat.not_lt]
    exact (h u hu).1
  rw [List.filter_append, hnil, List.append_nil]

theorem filter_statements_before (e : Expectation) :
    (e.read Expectation.statement? (ts ++ us)).filter (fun s => s.span.stop ≤ n) =
      (e.read Expectation.statement? ts).filter (fun s => s.span.stop ≤ n) := by
  refine Expectation.filter_read_append _ (fun u hu d s hs => ?_) e ts
  obtain ⟨hk,hstop⟩ := Expectation.stop_of_statement? hs
  rw [decide_eq_true_eq, hstop, Nat.not_le]
  exact (h u hu).2 hk

theorem filter_faults_before (e : Expectation) :
    (e.read Expectation.fault? (ts ++ us)).filter (fun f => f.span.stop < n) =
      (e.read Expectation.fault? ts).filter (fun f => f.span.stop < n) := by
  refine Expectation.filter_read_append _ (fun u hu d f hf => ?_) e ts
  rw [decide_eq_true_eq, (Expectation.place_of_fault? hf).2, Nat.not_lt]
  exact (h u hu).1

end

theorem Lexer.filter_tokens_eq_filter_lex {n : Nat} {bytes : List UInt8} (h : n ≤ bytes.length) :
    (ofBytes bytes).tokens.filter (fun t => t.span.stop < n) =
      (lex bytes).filter (fun t => t.span.stop < n) := by
  have hlast : ∀ u ∈ [Token.eof bytes.length], Reaches n u :=
    List.forall_mem_singleton.mpr (reaches_eof h)
  rw [lex_eq, last_ofBytes, filter_tokens_before hlast]

theorem before_append_eq_before_append (as xs ys : List UInt8) :
    (Lexer.ofBytes (as ++ xs)).tokens.filter (fun t => t.span.stop < as.length) =
        (Lexer.ofBytes (as ++ ys)).tokens.filter (fun t => t.span.stop < as.length) ∧
      (ParseResult.ofBytes (as ++ xs)).program.statements.filter
          (fun s => s.span.stop ≤ as.length) =
        (ParseResult.ofBytes (as ++ ys)).program.statements.filter
          (fun s => s.span.stop ≤ as.length) ∧
      (ParseResult.ofBytes (as ++ xs)).faults.filter (fun f => f.span.stop < as.length) =
        (ParseResult.ofBytes (as ++ ys)).faults.filter (fun f => f.span.stop < as.length) := by
  have hle (cs : List UInt8) : as.length ≤ (as ++ cs).length :=
    (List.prefix_append as cs).length_le
  obtain ⟨ts,hts⟩ := Lexer.exists_settled_lex as
  obtain ⟨us,hx,hus⟩ := hts xs
  obtain ⟨vs,hy,hvs⟩ := hts ys
  rw [Lexer.filter_tokens_eq_filter_lex (hle xs), Lexer.filter_tokens_eq_filter_lex (hle ys)]
  simp only [ParseResult.ofBytes_eq_read, hx, hy]
  refine ⟨?_,?_,?_⟩
  · rw [filter_tokens_before hus, filter_tokens_before hvs]
  · rw [filter_statements_before hus, filter_statements_before hvs]
  · rw [filter_faults_before hus, filter_faults_before hvs]

end LetLang
