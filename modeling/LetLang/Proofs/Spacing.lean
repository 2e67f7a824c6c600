import LetLang.Proofs.Join
import LetLang.Proofs.Linewise
import LetLang.Proofs.Written

namespace LetLang

open Text

namespace Kind

def WellFormed (literal : String) : Kind → Prop
  | keyword k => literal = k.spelling
  | operator o => literal = o.spelling
  | punctuation p => literal = p.spelling
  | ident => literal ≠ "" ∧ (∀ c ∈ literal.toList, IsWordChar c) ∧ ∀ k : Keyword, literal ≠ k.spelling
  | int => literal ≠ "" ∧ ∀ c ∈ literal.toList, c.isDigit
  | illegal =>
    ∃ b : UInt8, literal = String.singleton (Char.ofUInt8 b) ∧ ¬isBlank b ∧ ¬isLetter b ∧
      ¬isDigit b ∧ (∀ o : Operator, o.spelling.toList.head? ≠ some (Char.ofUInt8 b)) ∧
        ∀ p : Punctuation, p.spelling.toList.head? ≠ some (Char.ofUInt8 b)
  | eof => False

end Kind

theorem Text.not_blank_of_isSign {b : UInt8} (h : isSign b) : ¬isBlank b := by
  simp only [isSign, Bool.and_eq_true, Bool.not_eq_true'] at h
  simp [h.2]

theorem Text.latin_singleton (b : UInt8) : latin [b] = String.singleton (Char.ofUInt8 b) := by
  rw [latin, List.map_singleton, String.singleton_eq_ofList]

theorem Text.ne_nil_of_latin {bs : List UInt8} {s : String} (h : latin bs = s) (hs : s ≠ "") :
    bs ≠ [] := by
  rintro rfl
  exact hs h.symm

theorem isWordChar_ofUInt8 {b : UInt8} (h : isLetter b) : IsWordChar (Char.ofUInt8 b) := by
  simp only [isLetter, Bool.or_eq_true, Bool.and_eq_true, decide_eq_true_eq, beq_iff_eq] at h
  rcases h with (h | h) | rfl
  · exact .inl h
  · exact .inr (.inl h)
  · exact .inr (.inr rfl)

theorem isDigit_ofUInt8_iff {b : UInt8} : (Char.ofUInt8 b).isDigit ↔ isDigit b := by
  simp only [isDigit, Bool.and_eq_true, decide_eq_true_eq, Char.isDigit_iff_toNat]
  exact Iff.rfl

theorem Operator.exists_of_head {o : Operator} {c : Char}
    (h : o.spelling.toList.head? = some c) : ∃ p : Operator, p.spelling = String.singleton c := by
  have hall : ∀ o ∈ all, ∃ p ∈ all, o.spelling.toList.head?.map String.singleton = some p.spelling := by
    decide
  obtain ⟨p,_,hp⟩ := hall o o.mem_all
  rw [h] at hp
  exact ⟨p,(Option.some.inj hp).symm⟩

theorem Punctuation.spelling_of_head {p : Punctuation} {c : Char}
    (h : p.spelling.toList.head? = some c) : p.spelling = String.singleton c := by
  have hall : ∀ p ∈ all, p.spelling.toList.head?.map String.singleton = some p.spelling := by
    decide
  have hp := hall p p.mem_all
  rw [h] at hp
  exact (Option.some.inj hp).symm

namespace Kind

variable {k : Kind} {literal : String} {bs : List UInt8}

theorem Spelled.wellFormed (h : k.Spelled bs) (hb : ∀ b ∈ bs, ¬isBlank b) :
    k.WellFormed (latin bs) := by
  cases k with
  | keyword _ | operator _ | punctuation _ => exact h
  | ident =>
    obtain ⟨hne,hall,hfree⟩ := h
    refine ⟨fun hnil => hne (latin_inj hnil),?_,hfree⟩
    intro c hc
    rw [latin, String.toList_ofList] at hc
    obtain ⟨b,hbs,rfl⟩ := List.mem_map.mp hc
    exact isWordChar_ofUInt8 (hall b hbs)
  | int =>
    obtain ⟨hne,hall⟩ := h
    refine ⟨fun hnil => hne (latin_inj hnil),?_⟩
    intro c hc
    rw [latin, String.toList_ofList] at hc
    obtain ⟨b,hbs,rfl⟩ := List.mem_map.mp hc
    exact isDigit_ofUInt8_iff.mpr (hall b hbs)
  | illegal =>
    obtain ⟨b,rfl,hl,hd,ho,hp⟩ := h
    rw [latin_singleton] at ho hp ⊢
    refine ⟨b,rfl,hb b List.mem_cons_self,hl,hd,?_,?_⟩
    · intro o hhead
      obtain ⟨q,hq⟩ := Operator.exists_of_head hhead
      exact ho q hq.symm
    · intro p hhead
      exact hp p (Punctuation.spelling_of_head hhead).symm
  | eof => exact h.elim

theorem WellFormed.exists_spelled (h : k.WellFormed literal) :
    ∃ ws, latin ws = literal ∧ k.Spelled ws ∧ ∀ b ∈ ws, ¬isBlank b := by
  cases k with
  | keyword k =>
    have hlatin : latin (k.spelling.toList.map Char.toUInt8) = k.spelling := by cases k <;> decide
    refine ⟨_,hlatin.trans (Eq.symm h),hlatin,?_⟩
    exact fun b hb => ((classes_disjoint b).1 (Keyword.isLetter_of_latin hlatin b hb)).2
  | operator o =>
    have hlatin : latin (o.spelling.toList.map Char.toUInt8) = o.spelling := by cases o <;> decide
    refine ⟨_,hlatin.trans (Eq.symm h),hlatin,?_⟩
    exact fun b hb => not_blank_of_isSign (Operator.isSign_of_latin hlatin b hb)
  | punctuation p =>
    have hlatin : latin (p.spelling.toList.map Char.toUInt8) = p.spelling := by cases p <;> decide
    refine ⟨_,hlatin.trans (Eq.symm h),hlatin,?_⟩
    exact fun b hb => not_blank_of_isSign (Punctuation.isSign_of_latin hlatin b hb)
  | ident =>
    obtain ⟨hne,hall,hfree⟩ := h
    have hlatin := latin_map_toUInt8 (fun c hc => (hall c hc).toNat_lt)
    have hletter : ∀ b ∈ literal.toList.map Char.toUInt8, isLetter b := by
      intro b hb
      obtain ⟨c,hc,rfl⟩ := List.mem_map.mp hb
      exact (hall c hc).isLetter_toUInt8
    refine ⟨_,hlatin,⟨ne_nil_of_latin hlatin hne,hletter,hlatin.symm ▸ hfree⟩,?_⟩
    exact fun b hb => ((classes_disjoint b).1 (hletter b hb)).2
  | int =>
    obtain ⟨hne,hall⟩ := h
    have hlatin : latin (literal.toList.map Char.toUInt8) = literal := by
      apply latin_map_toUInt8
      intro c hc
      have hle := (Char.isDigit_iff_toNat.mp (hall c hc)).2
      exact Nat.lt_of_le_of_lt hle (by decide)
    have hdigit : ∀ b ∈ literal.toList.map Char.toUInt8, isDigit b := by
      intro b hb
      have hmem : Char.ofUInt8 b ∈ literal.toList := by
        rw [← latin_eq_iff.mp hlatin]
        exact List.mem_map_of_mem hb
      exact isDigit_ofUInt8_iff.mp (hall _ hmem)
    refine ⟨_,hlatin,⟨ne_nil_of_latin hlatin hne,hdigit⟩,?_⟩
    exact fun b hb => (classes_disjoint b).2 (hdigit b hb)
  | illegal =>
    obtain ⟨b,rfl,hb,hl,hd,ho,hp⟩ := h
    refine ⟨[b],latin_singleton b,⟨b,rfl,hl,hd,?_,?_⟩,List.forall_mem_singleton.mpr hb⟩
    · intro o hlatin
      apply ho o
      rw [← latin_eq_iff.mp hlatin]
      rfl
    · intro p hlatin
      apply hp p
      rw [← latin_eq_iff.mp hlatin]
      rfl
  | eof => exact h.elim

end Kind

structure Spaced where
  gap : List UInt8
  kind : Kind
  literal : String
  gap_blank : ∀ b ∈ gap, isBlank b
  wellFormed : kind.WellFormed literal

def Spaced.bytes (s : Spaced) : List UInt8 :=
  s.gap ++ s.literal.toList.map Char.toUInt8

theorem Lexer.tokens_all_blank_append {gap : List UInt8} (h : ∀ b ∈ gap, isBlank b) (n : Nat)
    (bs : List UInt8) : tokens ⟨n,gap ++ bs⟩ = tokens ⟨n + gap.length,bs⟩ := by
  induction gap generalizing n with
  | nil => rfl
  | cons b gap ih =>
    obtain ⟨hb,hgap⟩ := List.forall_mem_cons.mp h
    rw [List.cons_append, tokens_blank hb, ih hgap, List.length_cons, Nat.add_right_comm,
      Nat.add_assoc]

namespace Spaced

variable {ss : List Spaced} {trail : List UInt8} (htrail : ∀ b ∈ trail, isBlank b)
include htrail

theorem isBlank_of_mem_head? (hgaps : ∀ s ∈ ss, s.gap ≠ []) :
    ∀ c ∈ (ss.flatMap bytes ++ trail).head?, isBlank c := by
  intro c hc
  cases ss with
  | nil => exact htrail c (List.mem_of_mem_head? hc)
  | cons s ss =>
    obtain ⟨b,gap,hgap⟩ := List.exists_cons_of_ne_nil (hgaps s List.mem_cons_self)
    rw [List.flatMap_cons, bytes, hgap] at hc
    cases hc
    apply s.gap_blank
    rw [hgap]
    exact List.mem_cons_self

-- By induction on what is written, from any place: a blank or the end follows each literal.
theorem map_tokens_bytes (hgaps : ∀ s ∈ ss.tail, s.gap ≠ []) (n : Nat) :
    (Lexer.tokens ⟨n,ss.flatMap bytes ++ trail⟩).map (fun t => (t.kind, t.literal)) =
      ss.map fun s => (s.kind, s.literal) := by
  induction ss generalizing n with
  | nil =>
    rw [List.flatMap_nil, List.nil_append, Lexer.tokens_of_all_blank htrail]
    rfl
  | cons s ss ih =>
    obtain ⟨ws,hlatin,hspelled,hblank⟩ := s.wellFormed.exists_spelled
    have hhead : ∀ c ∈ (ss.flatMap bytes ++ trail).head?, isBlank c :=
      isBlank_of_mem_head? htrail hgaps
    obtain ⟨t,m,hkind,hliteral,htokens⟩ :=
      Lexer.exists_token_of_spelled hspelled hblank hhead (n + s.gap.length)
    rw [List.flatMap_cons, bytes, ← eq_of_latin hlatin, List.append_assoc, List.append_assoc,
      Lexer.tokens_all_blank_append s.gap_blank, htokens, List.map_cons, List.map_cons, hkind,
      hliteral, hlatin, ih (fun u hu => hgaps u (List.mem_of_mem_tail hu))]

end Spaced

theorem Token.Lexed.wellFormed {bytes : List UInt8} {t : Token} (h : t.Lexed bytes) :
    t.kind.WellFormed t.literal := by
  rw [h.literal]
  exact h.spelled.wellFormed h.noBlank

theorem Lexer.tokens_spaced_and_wellFormed :
    (∀ (ss : List Spaced) (trail : List UInt8), (∀ s ∈ ss.tail, s.gap ≠ []) →
      (∀ b ∈ trail, isBlank b) →
        (ofBytes (ss.flatMap Spaced.bytes ++ trail)).tokens.map (fun t => (t.kind, t.literal)) =
          ss.map fun s => (s.kind, s.literal)) ∧
      ∀ (bytes : List UInt8), ∀ t ∈ (ofBytes bytes).tokens, t.kind.WellFormed t.literal := by
  constructor
  · intro ss trail hgaps htrail
    exact Spaced.map_tokens_bytes htrail hgaps 0
  · intro bytes t ht
    exact (lexed_of_mem ht).wellFormed

theorem Lexer.tokens_spaced_and_wellFormed_signs :
    (∀ s ∈ [(⟨[],.operator .assign,"=",by simp,rfl⟩ : Spaced),
        ⟨[0x20],.operator .eq,"==",by simp [isBlank],rfl⟩].tail, s.gap ≠ []) ∧
      (∀ b ∈ [0x0A, 0x0D], isBlank b) ∧
        (ofBytes [0x3D, 0x20, 0x3D, 0x3D, 0x0A, 0x0D]).tokens.map (fun t => (t.kind, t.literal)) =
          [(.operator .assign, "="), (.operator .eq, "==")] ∧
        ⟨.illegal,"é",⟨1,2⟩⟩ ∈ (ofBytes [0x31, 0xE9]).tokens ∧ Kind.illegal.WellFormed "é" := by
  have hgaps : ∀ s ∈ [(⟨[],.operator .assign,"=",by simp,rfl⟩ : Spaced),
      ⟨[0x20],.operator .eq,"==",by simp [isBlank],rfl⟩].tail, s.gap ≠ [] := by
    simp
  have htrail : ∀ b ∈ [0x0A, 0x0D], isBlank b := by simp [isBlank]
  have hmem : ⟨.illegal,"é",⟨1,2⟩⟩ ∈ (ofBytes [0x31, 0xE9]).tokens := by decide +kernel
  obtain ⟨hread,hwell⟩ := tokens_spaced_and_wellFormed
  exact ⟨hgaps,htrail,hread _ [0x0A, 0x0D] hgaps htrail,hmem,hwell _ _ hmem⟩

end LetLang
