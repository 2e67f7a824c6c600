import LetLang.Proofs.Stream

namespace LetLang

open Text

theorem Text.latin_eq_iff {bs : List UInt8} {s : String} :
    latin bs = s ↔ bs.map Char.ofUInt8 = s.toList := by
  rw [latin, ← String.toList_inj, String.toList_ofList]

theorem Text.eq_of_latin {bs : List UInt8} {s : String} (h : latin bs = s) :
    bs = s.toList.map Char.toUInt8 := by
  have hinv : Char.toUInt8 ∘ Char.ofUInt8 = id := by
    funext b
    exact UInt8.toUInt8_toUInt32 b
  rw [← latin_eq_iff.mp h, List.map_map, hinv, List.map_id]

theorem Text.latin_inj {as bs : List UInt8} (h : latin as = latin bs) : as = bs := by
  have hb : bs = (latin bs).toList.map Char.toUInt8 := eq_of_latin rfl
  exact (eq_of_latin h).trans hb.symm

theorem Text.classes_disjoint (b : UInt8) :
    (isLetter b → ¬isDigit b ∧ ¬isBlank b) ∧ (isDigit b → ¬isBlank b) := by
  simp only [isLetter, isDigit, isBlank, Bool.or_eq_true, Bool.and_eq_true, decide_eq_true_eq,
    beq_iff_eq, UInt8.le_iff_toNat_le, ← UInt8.toNat_inj]
  simp only [UInt8.reduceToNat]
  omega

def Text.isSign (b : UInt8) : Bool :=
  !isLetter b && !isDigit b && !isBlank b

theorem Keyword.isLetter_of_latin {k : Keyword} {bs : List UInt8} (h : latin bs = k.spelling) :
    ∀ b ∈ bs, isLetter b := by
  have hall : (k.spelling.toList.map Char.toUInt8).all isLetter := by cases k <;> decide
  rw [eq_of_latin h]
  exact List.all_eq_true.mp hall

theorem Operator.isSign_of_latin {o : Operator} {bs : List UInt8} (h : latin bs = o.spelling) :
    ∀ b ∈ bs, isSign b := by
  have hall : (o.spelling.toList.map Char.toUInt8).all isSign := by cases o <;> decide
  rw [eq_of_latin h]
  exact List.all_eq_true.mp hall

theorem Punctuation.isSign_of_latin {p : Punctuation} {bs : List UInt8}
    (h : latin bs = p.spelling) : ∀ b ∈ bs, isSign b := by
  have hall : (p.spelling.toList.map Char.toUInt8).all isSign := by cases p <;> decide
  rw [eq_of_latin h]
  exact List.all_eq_true.mp hall

theorem Operator.length_spelling_le (o : Operator) : o.spelling.length ≤ 2 := by
  cases o <;> decide

theorem Punctuation.length_spelling (p : Punctuation) : p.spelling.length = 1 := by
  cases p <;> decide

namespace Kind

def Spelled (bs : List UInt8) : Kind → Prop
  | keyword k => latin bs = k.spelling
  | operator o => latin bs = o.spelling
  | punctuation p => latin bs = p.spelling
  | ident => bs ≠ [] ∧ (∀ b ∈ bs, isLetter b) ∧ ∀ k : Keyword, latin bs ≠ k.spelling
  | int => bs ≠ [] ∧ ∀ b ∈ bs, isDigit b
  | illegal =>
    ∃ b, bs = [b] ∧ ¬isLetter b ∧ ¬isDigit b ∧
      (∀ o : Operator, latin bs ≠ o.spelling) ∧ ∀ p : Punctuation, latin bs ≠ p.spelling
  | eof => False

def extendedBy (b : UInt8) : Kind → Bool
  | keyword _ => isLetter b
  | ident => isLetter b
  | int => isDigit b
  | operator .assign => Char.ofUInt8 b == '='
  | operator .bang => Char.ofUInt8 b == '='
  | _ => false

variable {k : Kind} {b c : UInt8} {bs ws rest : List UInt8}

theorem ofWord_eq_ident_iff {word : String} :
    ofWord word = ident ↔ ∀ k : Keyword, word ≠ k.spelling := by
  unfold ofWord
  split
  · rename_i k hk
    have hs := Keyword.spelling_of_ofSpelling? hk
    simp only [reduceCtorEq, false_iff]
    exact fun h => h k hs.symm
  · rename_i hn
    simp only [true_iff]
    intro k hk
    rw [hk, Keyword.ofSpelling?_spelling] at hn
    cases hn

theorem spelled_ofWord (hne : bs ≠ []) (h : ∀ b ∈ bs, isLetter b) :
    (ofWord (latin bs)).Spelled bs := by
  cases hk : Keyword.ofSpelling? (latin bs) with
  | some k =>
    have hs := Keyword.spelling_of_ofSpelling? hk
    rw [ofWord_eq_keyword_iff.mpr hs]
    exact hs.symm
  | none =>
    have hi : ofWord (latin bs) = ident := by rw [ofWord, hk]
    rw [hi]
    exact ⟨hne,h,ofWord_eq_ident_iff.mp hi⟩

theorem extendedBy_ofWord (word : String) : (ofWord word).extendedBy c = isLetter c := by
  unfold ofWord
  split <;> rfl

theorem Spelled.ne_nil (h : k.Spelled bs) : bs ≠ [] := by
  rintro rfl
  cases k with
  | keyword k =>
    have hs : "" = k.spelling := h
    cases k <;> simp [Keyword.spelling] at hs
  | operator o =>
    have hs : "" = o.spelling := h
    cases o <;> simp [Operator.spelling] at hs
  | punctuation p =>
    have hs : "" = p.spelling := h
    cases p <;> simp [Punctuation.spelling] at hs
  | ident | int => exact h.1 rfl
  | illegal =>
    obtain ⟨b,hb,_⟩ := h
    cases hb
  | eof => exact h

section
variable (hl : ¬isLetter c) (hd : ¬isDigit c) (he : Char.ofUInt8 c ≠ '=') (k : Kind)
include hl hd he

theorem not_extendedBy : ¬k.extendedBy c := by
  cases k with
  | operator o => cases o <;> simp [extendedBy, he]
  | keyword _ | ident | int | punctuation _ | illegal | eof => simp [extendedBy, hl, hd]

theorem head_not_extendedBy : ∀ d ∈ (c :: rest).head?, ¬k.extendedBy d := by
  rintro d ⟨⟩
  exact not_extendedBy hl hd he k

end

theorem not_extendedBy_blank (h : isBlank b) (k : Kind) : ¬k.extendedBy b := by
  have hl : ¬isLetter b := fun hl => ((classes_disjoint b).1 hl).2 h
  have hd : ¬isDigit b := fun hd => (classes_disjoint b).2 hd h
  have he : Char.ofUInt8 b ≠ '=' := by
    simp only [isBlank, Bool.or_eq_true, beq_iff_eq] at h
    rcases h with ((rfl | rfl) | rfl) | rfl <;> decide
  exact k.not_extendedBy hl hd he

theorem Spelled.of_letter (h : k.Spelled (b :: ws)) (hb : isLetter b) :
    (∀ c ∈ ws, isLetter c) ∧ k = ofWord (latin (b :: ws)) := by
  cases k with
  | keyword k =>
    have hall := Keyword.isLetter_of_latin h
    have hk : k.spelling = latin (b :: ws) := Eq.symm h
    exact ⟨fun c hc => hall c (List.mem_cons_of_mem b hc),(ofWord_eq_keyword_iff.mpr hk).symm⟩
  | operator o =>
    have hs := Operator.isSign_of_latin h b List.mem_cons_self
    simp [isSign, hb] at hs
  | punctuation p =>
    have hs := Punctuation.isSign_of_latin h b List.mem_cons_self
    simp [isSign, hb] at hs
  | ident =>
    exact ⟨fun c hc => h.2.1 c (List.mem_cons_of_mem b hc),(ofWord_eq_ident_iff.mpr h.2.2).symm⟩
  | int => exact absurd (h.2 b List.mem_cons_self) ((classes_disjoint b).1 hb).1
  | illegal =>
    obtain ⟨d,hd,hl,_⟩ := h
    rw [← (List.cons.inj hd).1] at hl
    exact absurd hb hl
  | eof => exact h.elim

theorem Spelled.of_digit (h : k.Spelled (b :: ws)) (hb : isDigit b) :
    (∀ c ∈ ws, isDigit c) ∧ k = int := by
  have hnl : ¬isLetter b := fun hl => ((classes_disjoint b).1 hl).1 hb
  cases k with
  | keyword k => exact absurd (Keyword.isLetter_of_latin h b List.mem_cons_self) hnl
  | operator o =>
    have hs := Operator.isSign_of_latin h b List.mem_cons_self
    simp [isSign, hb] at hs
  | punctuation p =>
    have hs := Punctuation.isSign_of_latin h b List.mem_cons_self
    simp [isSign, hb] at hs
  | ident => exact absurd (h.2.1 b List.mem_cons_self) hnl
  | int => exact ⟨fun c hc => h.2 c (List.mem_cons_of_mem b hc),rfl⟩
  | illegal =>
    obtain ⟨d,hd,_,hn,_⟩ := h
    rw [← (List.cons.inj hd).1] at hn
    exact absurd hb hn
  | eof => exact h.elim

end Kind

section
variable {b c : UInt8} {bs ws rest : List UInt8}

open Kind

theorem latin_pair_iff {o : Operator} :
    latin [b, c] = o.spelling ↔ Char.ofUInt8 c = '=' ∧
      (Char.ofUInt8 b = '=' ∧ o = .eq ∨ Char.ofUInt8 b = '!' ∧ o = .notEq) := by
  rw [latin_eq_iff]
  cases o <;> simp [Operator.spelling, and_comm]

theorem singleSign_of_operator {o : Operator} (h : latin [b] = o.spelling) :
    singleSign b = .operator o := by
  rw [latin_eq_iff] at h
  cases o <;> simp [Operator.spelling] at h <;> simp [singleSign, h]

theorem singleSign_of_punctuation {p : Punctuation} (h : latin [b] = p.spelling) :
    singleSign b = .punctuation p := by
  rw [latin_eq_iff] at h
  cases p <;> simp [Punctuation.spelling] at h <;> simp [singleSign, h]

theorem singleSign_cases (b : UInt8) :
    (∃ o : Operator, singleSign b = .operator o ∧ latin [b] = o.spelling) ∨
      (∃ p : Punctuation, singleSign b = .punctuation p ∧ latin [b] = p.spelling) ∨
        singleSign b = .illegal := by
  simp only [latin_eq_iff]
  unfold singleSign
  split
  case h_15 => exact .inr (.inr rfl)
  all_goals rename_i h
  all_goals first
    | exact .inl ⟨_,rfl,congrArg (fun c => [c]) h⟩
    | exact .inr (.inl ⟨_,rfl,congrArg (fun c => [c]) h⟩)

theorem spelled_singleSign (hl : ¬isLetter b) (hd : ¬isDigit b) :
    (singleSign b).Spelled [b] := by
  rcases singleSign_cases b with ⟨o,ho,hs⟩ | ⟨p,hp,hs⟩ | hi
  · rwa [ho]
  · rwa [hp]
  · rw [hi]
    refine ⟨b,rfl,hl,hd,fun o h => ?_,fun p h => ?_⟩
    · rw [singleSign_of_operator h] at hi
      cases hi
    · rw [singleSign_of_punctuation h] at hi
      cases hi

theorem eq_singleSign {k : Kind} (h : k.Spelled [b]) (hl : ¬isLetter b) (hd : ¬isDigit b) :
    k = singleSign b := by
  cases k with
  | keyword k => exact absurd (Keyword.isLetter_of_latin h b List.mem_cons_self) hl
  | operator o => exact (singleSign_of_operator h).symm
  | punctuation p => exact (singleSign_of_punctuation h).symm
  | ident => exact absurd (h.2.1 b List.mem_cons_self) hl
  | int => exact absurd (h.2 b List.mem_cons_self) hd
  | illegal =>
    obtain ⟨_,_,_,_,ho,hp⟩ := h
    rcases singleSign_cases b with ⟨o,_,hs⟩ | ⟨p,_,hs⟩ | hi
    · exact absurd hs (ho o)
    · exact absurd hs (hp p)
    · exact hi.symm
  | eof => exact h.elim

theorem extendedBy_singleSign_iff :
    (singleSign b).extendedBy c ↔ ∃ o : Operator, latin [b, c] = o.spelling := by
  simp only [latin_pair_iff]
  by_cases he : Char.ofUInt8 b = '='
  · simp [singleSign, he, extendedBy]
  by_cases hb : Char.ofUInt8 b = '!'
  · simp [singleSign, hb, extendedBy]
  · simp only [he, hb, false_and, or_self, and_false, exists_false, iff_false]
    unfold singleSign
    split <;> simp_all [extendedBy]

theorem doubleSign?_eq_some_iff {o : Operator} :
    doubleSign? b (c :: bs) = some o ↔ latin [b, c] = o.spelling := by
  rw [latin_pair_iff, doubleSign?]
  by_cases hc : Char.ofUInt8 c = '='
  · rw [if_pos hc]
    split <;> simp_all [eq_comm (a := o)]
  · rw [if_neg hc]
    simp [hc]

theorem doubleSign?_eq_none_iff :
    doubleSign? b bs = none ↔ ∀ c ∈ bs.head?, ¬(singleSign b).extendedBy c := by
  cases bs with
  | nil => simp [doubleSign?]
  | cons c bs =>
    simp only [List.head?_cons, Option.mem_some_iff, forall_eq', extendedBy_singleSign_iff,
      not_exists, ← @doubleSign?_eq_some_iff b c bs, Option.eq_none_iff_forall_ne_some]

theorem Kind.Spelled.of_sign {k : Kind} (h : k.Spelled (b :: ws)) (hl : ¬isLetter b)
    (hd : ¬isDigit b) :
    (ws = [] ∧ k = singleSign b) ∨
      ∃ c o, ws = [c] ∧ k = .operator o ∧ latin [b, c] = o.spelling := by
  cases ws with
  | nil => exact .inl ⟨rfl,eq_singleSign h hl hd⟩
  | cons c ws =>
    right
    cases k with
    | keyword k => exact absurd (Keyword.isLetter_of_latin h b List.mem_cons_self) hl
    | operator o =>
      have hlen := congrArg String.length h
      have hle := Operator.length_spelling_le o
      rw [length_latin, List.length_cons, List.length_cons] at hlen
      have hws : ws = [] := List.eq_nil_of_length_eq_zero (by omega)
      subst hws
      exact ⟨c,o,rfl,rfl,h⟩
    | punctuation p =>
      have hlen := congrArg String.length h
      rw [length_latin, Punctuation.length_spelling, List.length_cons, List.length_cons] at hlen
      omega
    | ident => exact absurd (h.2.1 b List.mem_cons_self) hl
    | int => exact absurd (h.2 b List.mem_cons_self) hd
    | illegal =>
      obtain ⟨_,heq,_⟩ := h
      cases heq
    | eof => exact h.elim

theorem letter_or_digit_or_other (b : UInt8) :
    isLetter b ∨ isDigit b ∨ ¬isLetter b ∧ ¬isDigit b := by
  cases isLetter b <;> cases isDigit b <;> simp

theorem Kind.Spelled.not_blank {k : Kind} (h : k.Spelled (b :: ws)) :
    ∀ c ∈ ws, ¬isBlank c := by
  intro c hc
  rcases letter_or_digit_or_other b with hl | hd | ⟨hl,hd⟩
  · exact ((classes_disjoint c).1 ((h.of_letter hl).1 c hc)).2
  · exact (classes_disjoint c).2 ((h.of_digit hd).1 c hc)
  rcases h.of_sign hl hd with ⟨rfl,_⟩ | ⟨d,o,rfl,_,hs⟩
  · cases hc
  · have hsign := Operator.isSign_of_latin hs c (List.mem_cons_of_mem b hc)
    simp only [isSign, Bool.and_eq_true, Bool.not_eq_true'] at hsign
    simp [hsign.2]

theorem lexeme_of_letter (hb : isLetter b) :
    lexeme b bs = (.ofWord (latin (b :: bs.takeWhile isLetter)), (bs.takeWhile isLetter).length) := by
  rw [lexeme, if_pos hb]

theorem lexeme_of_digit (hb : isDigit b) :
    lexeme b bs = (.int, (bs.takeWhile isDigit).length) := by
  have hl : ¬isLetter b := fun hl => ((classes_disjoint b).1 hl).1 hb
  rw [lexeme, if_neg hl, if_pos hb]

theorem lexeme_of_sign (hl : ¬isLetter b) (hd : ¬isDigit b) :
    lexeme b bs =
      match doubleSign? b bs with
      | some o => (.operator o, 1)
      | none => (singleSign b, 0) := by
  unfold lexeme
  exact (if_neg hl).trans (if_neg hd)

theorem lexeme_sign_cases (hl : ¬isLetter b) (hd : ¬isDigit b) (bs : List UInt8) :
    lexeme b bs = (singleSign b, 0) ∧ (∀ c ∈ bs.head?, ¬(singleSign b).extendedBy c) ∨
      ∃ c cs o, bs = c :: cs ∧ lexeme b bs = (.operator o, 1) ∧ latin [b, c] = o.spelling := by
  rw [lexeme_of_sign hl hd]
  cases ho : doubleSign? b bs with
  | none => exact .inl ⟨rfl,doubleSign?_eq_none_iff.mp ho⟩
  | some o =>
    cases bs with
    | nil => cases ho
    | cons c cs => exact .inr ⟨c,cs,o,rfl,rfl,doubleSign?_eq_some_iff.mp ho⟩

theorem takeWhile_append_of_head {p : UInt8 → Bool} (hws : ∀ c ∈ ws, p c)
    (hrest : ∀ c ∈ rest.head?, ¬p c) : (ws ++ rest).takeWhile p = ws := by
  rw [List.takeWhile_append_of_pos hws]
  cases rest with
  | nil => simp
  | cons c rest => simp [List.takeWhile_cons_of_neg (hrest c rfl)]

-- No other lexeme is spelled at the front of the bytes without being cut short.
theorem lexeme_unique {k : Kind} (h : k.Spelled (b :: ws))
    (hrest : ∀ c ∈ rest.head?, ¬k.extendedBy c) : lexeme b (ws ++ rest) = (k, ws.length) := by
  rcases letter_or_digit_or_other b with hl | hd | ⟨hl,hd⟩
  · obtain ⟨hws,rfl⟩ := h.of_letter hl
    simp only [extendedBy_ofWord] at hrest
    rw [lexeme_of_letter hl, takeWhile_append_of_head hws hrest]
  · obtain ⟨hws,rfl⟩ := h.of_digit hd
    rw [lexeme_of_digit hd, takeWhile_append_of_head hws hrest]
  rcases h.of_sign hl hd with ⟨rfl,rfl⟩ | ⟨c,o,rfl,rfl,hs⟩
  · rw [lexeme_of_sign hl hd, List.nil_append, doubleSign?_eq_none_iff.mpr hrest]
    rfl
  · rw [lexeme_of_sign hl hd, List.singleton_append, doubleSign?_eq_some_iff.mpr hs]
    rfl

theorem lexeme_spelled (b : UInt8) (bs : List UInt8) :
    (lexeme b bs).1.Spelled (b :: bs.take (lexeme b bs).2) := by
  have hall (p : UInt8 → Bool) : ∀ c ∈ bs.takeWhile p, p c :=
    List.all_eq_true.mp List.all_takeWhile
  rcases letter_or_digit_or_other b with hl | hd | ⟨hl,hd⟩
  · rw [lexeme_of_letter hl, take_length_takeWhile]
    exact spelled_ofWord (List.cons_ne_nil _ _) (List.forall_mem_cons.mpr ⟨hl,hall isLetter⟩)
  · rw [lexeme_of_digit hd, take_length_takeWhile]
    exact ⟨List.cons_ne_nil _ _,List.forall_mem_cons.mpr ⟨hd,hall isDigit⟩⟩
  rcases lexeme_sign_cases hl hd bs with ⟨h,_⟩ | ⟨c,cs,o,rfl,h,ho⟩
  · rw [h]
    exact spelled_singleSign hl hd
  · rw [h]
    exact ho

theorem lexeme_maximal (b : UInt8) (bs : List UInt8) :
    ∀ c ∈ (bs.drop (lexeme b bs).2).head?, ¬(lexeme b bs).1.extendedBy c := by
  rcases letter_or_digit_or_other b with hl | hd | ⟨hl,hd⟩
  · rw [lexeme_of_letter hl, drop_length_takeWhile]
    intro c hc
    rw [extendedBy_ofWord]
    exact not_of_mem_head?_dropWhile hc
  · rw [lexeme_of_digit hd, drop_length_takeWhile]
    intro c hc
    exact not_of_mem_head?_dropWhile (p := isDigit) hc
  rcases lexeme_sign_cases hl hd bs with ⟨h,hmax⟩ | ⟨c,cs,o,rfl,h,ho⟩
  · rw [h]
    exact hmax
  · rw [h]
    rcases (latin_pair_iff.mp ho).2 with ⟨_,rfl⟩ | ⟨_,rfl⟩
    · exact fun c _ => Bool.false_ne_true
    · exact fun c _ => Bool.false_ne_true

theorem spelled_semicolon : (Kind.punctuation .semicolon).Spelled [0x3B] :=
  latin_eq_iff.mpr rfl

theorem eq_of_lexeme_semicolon (h : (lexeme b bs).1 = .punctuation .semicolon) : b = 0x3B := by
  have hs := lexeme_spelled b bs
  rw [h] at hs
  exact (List.cons.inj (eq_of_latin hs)).1

theorem Lexer.tokens_of_spelled {k : Kind} (h : k.Spelled (b :: ws)) (hb : ¬isBlank b)
    (hrest : ∀ c ∈ rest.head?, ¬k.extendedBy c) (n : Nat) :
    tokens ⟨n,b :: (ws ++ rest)⟩ =
      ⟨k,latin (b :: ws),⟨n,n + 1 + ws.length⟩⟩ :: tokens ⟨n + 1 + ws.length,rest⟩ := by
  rw [tokens_cons hb, lexeme_unique h hrest]
  simp only [List.take_left, List.drop_left]

theorem Lexer.exists_token_of_spelled {k : Kind} (h : k.Spelled ws) (hb : ∀ b ∈ ws, ¬isBlank b)
    (hrest : ∀ c ∈ rest.head?, isBlank c) (n : Nat) :
    ∃ t m, t.kind = k ∧ t.literal = latin ws ∧
      tokens ⟨n,ws ++ rest⟩ = t :: tokens ⟨m,rest⟩ := by
  obtain ⟨b,bs,rfl⟩ := List.exists_cons_of_ne_nil h.ne_nil
  have hmax : ∀ c ∈ rest.head?, ¬k.extendedBy c :=
    fun c hc => k.not_extendedBy_blank (hrest c hc)
  exact ⟨_,_,rfl,rfl,tokens_of_spelled h (hb b List.mem_cons_self) hmax n⟩

theorem Lexer.semicolon_mem_rest {lx : Lexer} {t : Token} (ht : t ∈ lx.tokens)
    (h : t.kind = .punctuation .semicolon) : 0x3B ∈ lx.rest := by
  induction lx using scan_induction with
  | nil n =>
    rw [tokens_nil] at ht
    cases ht
  | blank n b bs hb ih =>
    rw [tokens_blank hb] at ht
    exact List.mem_cons_of_mem b (ih ht)
  | token n b bs hb ih =>
    rw [tokens_cons hb] at ht
    rcases List.mem_cons.mp ht with rfl | ht
    · rw [eq_of_lexeme_semicolon h]
      exact List.mem_cons_self
    · exact List.mem_cons_of_mem b (List.mem_of_mem_drop (ih ht))

end

end LetLang
