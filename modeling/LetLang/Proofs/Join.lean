import LetLang.Proofs.Composition
import LetLang.Proofs.Tokenization

namespace LetLang

open Text

theorem Kind.Spelled.extendedBy_iff {k : Kind} {b c : UInt8} {bs : List UInt8} (h : k.Spelled bs)
    (hb : b ∈ bs) :
    k.extendedBy c ↔ isLetter b ∧ isLetter c ∨ isDigit b ∧ isDigit c ∨
      Char.ofUInt8 c = '=' ∧ (k = .operator .assign ∨ k = .operator .bang) := by
  have hword (hl : isLetter b) : ¬isDigit b := ((classes_disjoint b).1 hl).1
  cases k with
  | keyword k =>
    have hl := Keyword.isLetter_of_latin h b hb
    simp [extendedBy, hl, hword hl]
  | ident =>
    have hl := h.2.1 b hb
    simp [extendedBy, hl, hword hl]
  | int =>
    have hd := h.2 b hb
    have hnl : ¬isLetter b := fun hl => hword hl hd
    simp [extendedBy, hd, hnl]
  | operator o =>
    have hs := Operator.isSign_of_latin h b hb
    simp only [isSign, Bool.and_eq_true, Bool.not_eq_true'] at hs
    cases o <;> simp [extendedBy, hs]
  | punctuation p =>
    have hs := Punctuation.isSign_of_latin h b hb
    simp only [isSign, Bool.and_eq_true, Bool.not_eq_true'] at hs
    simp [extendedBy, hs]
  | illegal =>
    obtain ⟨d,rfl,hl,hd,_⟩ := h
    obtain rfl := List.mem_singleton.mp hb
    simp [extendedBy, hl, hd]
  | eof => exact h.elim

namespace Lexer

variable {as bs : List UInt8} {b : UInt8} {t : Token}

theorem tokenization_ofBytes (as : List UInt8) : Tokenization as 0 (ofBytes as).tokens :=
  (tokenization_ofBytes_iff as _).mpr rfl

theorem lexed_of_mem (ht : t ∈ (ofBytes as).tokens) : t.Lexed as :=
  (tokenization_ofBytes as).lexed t ht

theorem getLast_mem_slice (hs : t.Lexed as) (hstop : t.span.stop = as.length)
    (hb : b ∈ as.getLast?) : b ∈ t.span.slice as := by
  obtain ⟨cs,rfl⟩ := List.getLast?_eq_some_iff.mp hb
  have hlen : (cs ++ [b]).length = cs.length + 1 := List.length_append
  have hne := hs.nonempty
  have hlt : cs.length < (cs ++ [b]).length := by omega
  have hm := Span.getElem_mem_slice hlt (s := t.span) ⟨by omega,by omega⟩
  rwa [List.getElem_concat_length rfl] at hm

-- Tokens are in order and none is empty, so nothing comes after one that ends with the text.
theorem mem_getLast?_of_stop (ht : t ∈ (ofBytes as).tokens) (hstop : t.span.stop = as.length) :
    t ∈ (ofBytes as).tokens.getLast? := by
  have htok := tokenization_ofBytes as
  obtain ⟨us,vs,hsplit⟩ := List.append_of_mem ht
  have hvs : vs = [] := by
    refine List.eq_nil_iff_forall_not_mem.mpr (fun v hv => ?_)
    have hord := htok.ordered
    rw [hsplit] at hord
    have hle := (List.pairwise_cons.mp (List.pairwise_append.mp hord).2.1).1 v hv
    have hmem : v ∈ (ofBytes as).tokens := by rw [hsplit]; simp [hv]
    have hpos := (htok.lexed v hmem).nonempty
    have hin := (htok.lexed v hmem).inside
    omega
  rw [hsplit, hvs, List.getLast?_append]
  rfl

theorem exists_last_token (hb : b ∈ as.getLast?) (hblank : ¬isBlank b) :
    ∃ t ∈ (ofBytes as).tokens.getLast?, t.span.stop = as.length := by
  have htok := tokenization_ofBytes as
  have hlast : as[as.length - 1]? = some b := by rw [← List.getLast?_eq_getElem?, hb]
  obtain ⟨hlt,hget⟩ := List.getElem?_eq_some_iff.mp hlast
  obtain ⟨t,⟨ht,hold⟩,_⟩ := htok.covered _ hlt (Nat.zero_le _) (hget ▸ hblank)
  have hstop : t.span.stop = as.length := by
    have hover := hold.2
    have hin := (htok.lexed t ht).inside
    omega
  exact ⟨t,mem_getLast?_of_stop ht hstop,hstop⟩

theorem extendedBy_last_iff {c : UInt8} (ht : t ∈ (ofBytes as).tokens.getLast?)
    (hstop : t.span.stop = as.length) (hb : b ∈ as.getLast?) :
    t.kind.extendedBy c ↔ isLetter b ∧ isLetter c ∨ isDigit b ∧ isDigit c ∨
      Char.ofUInt8 c = '=' ∧ (t.kind = .operator .assign ∨ t.kind = .operator .bang) := by
  have hs := lexed_of_mem (List.mem_of_getLast? ht)
  exact hs.spelled.extendedBy_iff (getLast_mem_slice hs hstop hb)

theorem tokens_append_iff_last (as bs : List UInt8) :
    (ofBytes (as ++ bs)).tokens =
        (ofBytes as).tokens ++ (ofBytes bs).tokens.map (Token.shift as.length) ↔
      ∀ t ∈ (ofBytes as).tokens.getLast?, t.span.stop = as.length →
        ∀ c ∈ bs.head?, ¬t.kind.extendedBy c := by
  constructor
  · intro h t ht hstop c hc
    have hmem : t ∈ (ofBytes (as ++ bs)).tokens := by
      rw [h]
      exact List.mem_append_left _ (List.mem_of_getLast? ht)
    refine (lexed_of_mem hmem).maximal c ?_
    rwa [hstop, List.getElem?_append_right (Nat.le_refl _), Nat.sub_self, ← List.head?_eq_getElem?]
  · intro h
    rw [← tokens_shift]
    refine tokens_append (ofBytes as) bs (fun t ht hstop => h t ht ?_)
    rw [hstop]
    exact Nat.zero_add _

end Lexer

def Merges (as bs : List UInt8) : Prop :=
  ∃ b ∈ as.getLast?, ∃ c ∈ bs.head?,
    isLetter b ∧ isLetter c ∨ isDigit b ∧ isDigit c ∨
      Char.ofUInt8 c = '=' ∧ ∃ t ∈ (Lexer.ofBytes as).tokens.getLast?,
        (t.kind = .operator .assign ∨ t.kind = .operator .bang) ∧ t.span.stop = as.length

theorem merges_iff_extended {as bs : List UInt8} :
    Merges as bs ↔ ∃ t ∈ (Lexer.ofBytes as).tokens.getLast?, t.span.stop = as.length ∧
      ∃ c ∈ bs.head?, t.kind.extendedBy c := by
  constructor
  · rintro ⟨b,hb,c,hc,⟨hbl,hcl⟩ | ⟨hbd,hcd⟩ | ⟨he,t,ht,hk,hstop⟩⟩
    · obtain ⟨t,ht,hstop⟩ := Lexer.exists_last_token hb ((classes_disjoint b).1 hbl).2
      exact ⟨t,ht,hstop,c,hc,(Lexer.extendedBy_last_iff ht hstop hb).mpr (.inl ⟨hbl,hcl⟩)⟩
    · obtain ⟨t,ht,hstop⟩ := Lexer.exists_last_token hb ((classes_disjoint b).2 hbd)
      exact ⟨t,ht,hstop,c,hc,(Lexer.extendedBy_last_iff ht hstop hb).mpr (.inr (.inl ⟨hbd,hcd⟩))⟩
    · exact ⟨t,ht,hstop,c,hc,(Lexer.extendedBy_last_iff ht hstop hb).mpr (.inr (.inr ⟨he,hk⟩))⟩
  · rintro ⟨t,ht,hstop,c,hc,hext⟩
    have hne : as ≠ [] := by
      rintro rfl
      rw [Lexer.ofBytes, Lexer.tokens_nil] at ht
      cases ht
    have hb : as.getLast hne ∈ as.getLast? := List.getLast?_eq_some_getLast hne
    refine ⟨_,hb,c,hc,?_⟩
    rcases (Lexer.extendedBy_last_iff ht hstop hb).mp hext with hl | hd | ⟨he,hk⟩
    · exact .inl hl
    · exact .inr (.inl hd)
    · exact .inr (.inr ⟨he,t,ht,hk,hstop⟩)

theorem Lexer.tokens_append_eq_iff_not_merges (as bs : List UInt8) :
    (ofBytes (as ++ bs)).tokens =
        (ofBytes as).tokens ++ (ofBytes bs).tokens.map (Token.shift as.length) ↔
      ¬Merges as bs := by
  rw [tokens_append_iff_last, merges_iff_extended]
  simp only [not_exists, not_and]

end LetLang
