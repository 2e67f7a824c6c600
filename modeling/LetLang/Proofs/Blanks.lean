import LetLang.Proofs.Bounds
import LetLang.Proofs.Listing

namespace LetLang

open Text

def SameButBlanks (as bs : List UInt8) : Prop :=
  as.length = bs.length ∧
    ∀ i (ha : i < as.length) (hb : i < bs.length),
      as[i] = bs[i] ∨ isBlank as[i] ∧ isBlank bs[i]

section
variable {as bs : List UInt8} {t : Token} {ts : List Token} {i n : Nat}

namespace SameButBlanks

theorem symm (h : SameButBlanks as bs) : SameButBlanks bs as := by
  refine ⟨h.1.symm,?_⟩
  intro i hb ha
  rcases h.2 i ha hb with heq | ⟨hba,hbb⟩
  · exact .inl heq.symm
  · exact .inr ⟨hbb,hba⟩

theorem getElem?_eq (h : SameButBlanks as bs) (hn : ∀ b ∈ as[i]?, ¬isBlank b) :
    as[i]? = bs[i]? := by
  obtain ⟨hlen,hall⟩ := h
  by_cases ha : i < as.length
  · have hb : i < bs.length := hlen ▸ ha
    rw [List.getElem?_eq_getElem ha, List.getElem?_eq_getElem hb]
    rw [List.getElem?_eq_getElem ha] at hn
    rcases hall i ha hb with heq | ⟨hblank,_⟩
    · rw [heq]
    · exact absurd hblank (hn _ rfl)
  · have hb : ¬i < bs.length := hlen ▸ ha
    rw [List.getElem?_eq_none (Nat.not_lt.mp ha), List.getElem?_eq_none (Nat.not_lt.mp hb)]

theorem slice_eq (h : SameButBlanks as bs) (ht : t.Lexed as) :
    t.span.slice as = t.span.slice bs := by
  apply List.ext_getElem?
  intro i
  rw [Span.getElem?_slice, Span.getElem?_slice]
  split
  · rename_i hi
    apply h.getElem?_eq
    intro b hb
    apply ht.noBlank
    apply List.mem_of_getElem? (i := i)
    rw [Span.getElem?_slice, if_pos hi]
    exact hb
  · rfl

theorem lexed (h : SameButBlanks as bs) (ht : t.Lexed as) : t.Lexed bs := by
  have hslice := h.slice_eq ht
  refine ⟨ht.nonempty,?_,?_,?_,?_,?_⟩
  · exact h.1 ▸ ht.inside
  · exact hslice ▸ ht.noBlank
  · exact hslice ▸ ht.literal
  · exact hslice ▸ ht.spelled
  · intro b hb
    by_cases hblank : isBlank b
    · exact t.kind.not_extendedBy_blank hblank
    · apply ht.maximal
      rw [← h.symm.getElem?_eq]
      · exact hb
      · rintro c hc
        rw [Option.mem_def.mp hb] at hc
        cases hc
        exact hblank

theorem tokenization (h : SameButBlanks as bs) (ht : Tokenization as n ts) :
    Tokenization bs n ts := by
  refine ⟨fun t htmem => h.lexed (ht.lexed t htmem),ht.after,ht.ordered,?_⟩
  intro i hb hle hblank
  have ha : i < as.length := h.1 ▸ hb
  apply ht.covered i ha hle
  rcases h.2 i ha hb with heq | ⟨_,hbb⟩
  · rwa [heq]
  · exact absurd hbb hblank

theorem tokens_eq (h : SameButBlanks as bs) :
    (Lexer.ofBytes as).tokens = (Lexer.ofBytes bs).tokens :=
  (tokenization_ofBytes_iff bs _).mp (h.tokenization (Lexer.tokenization_ofBytes as))

end SameButBlanks

theorem Token.Lexed.getElem?_eq (ha : t.Lexed as) (hb : t.Lexed bs) (hi : t.span.Holds i) :
    as[i]? = bs[i]? := by
  obtain ⟨hstart,hstop⟩ := hi
  have hslice : t.span.slice as = t.span.slice bs :=
    latin_inj (ha.literal.symm.trans hb.literal)
  have hget := congrArg (fun ws => ws[i - t.span.start]?) hslice
  simp only [Span.getElem?_slice] at hget
  have hlt : i - t.span.start < t.span.stop - t.span.start := by omega
  rwa [if_pos hlt, if_pos hlt, Nat.add_sub_cancel' hstart] at hget

theorem Lexer.getElem?_eq_of_tokens_eq (h : (ofBytes as).tokens = (ofBytes bs).tokens)
    (hi : i < as.length) (hn : ¬isBlank as[i]) : as[i]? = bs[i]? := by
  obtain ⟨t,⟨ht,hold⟩,_⟩ := (tokenization_ofBytes as).covered i hi (Nat.zero_le i) hn
  exact (lexed_of_mem ht).getElem?_eq (lexed_of_mem (h ▸ ht)) hold

theorem lex_eq_iff_sameButBlanks : lex as = lex bs ↔ SameButBlanks as bs := by
  rw [lex_eq_append_eof, lex_eq_append_eof]
  constructor
  · intro h
    obtain ⟨htokens,hlast⟩ := List.append_inj' h rfl
    have hlen : as.length = bs.length :=
      congrArg (fun t => t.span.start) (List.singleton_inj.mp hlast)
    refine ⟨hlen,?_⟩
    intro i ha hb
    have hget : as[i]? = bs[i]? → as[i] = bs[i] := by
      rw [List.getElem?_eq_getElem ha, List.getElem?_eq_getElem hb]
      exact Option.some.inj
    by_cases hna : isBlank as[i]
    · by_cases hnb : isBlank bs[i]
      · exact .inr ⟨hna,hnb⟩
      · exact .inl (hget (Lexer.getElem?_eq_of_tokens_eq htokens.symm hb hnb).symm)
    · exact .inl (hget (Lexer.getElem?_eq_of_tokens_eq htokens ha hna))
  · intro h
    rw [h.tokens_eq, h.1]

end

theorem Kind.tag_injective {k l : Kind} (h : k.tag = l.tag) : k = l := by
  have hall : ∀ k ∈ all, ∀ l ∈ all, k.tag = l.tag → k = l := by decide +kernel
  exact hall k k.mem_all l l.mem_all h

namespace Token

variable {t u : Token}

theorem place_injective (h : t.place = u.place) : t.span = u.span := by
  have hdots : "..".toList = ['.', '.'] := rfl
  have hdot (n : Nat) : '.' ∉ Nat.toDigits 10 n := by
    intro hmem
    have hdigit := Nat.isDigit_of_mem_toDigits (by decide) (by decide) hmem
    simp at hdigit
  have hlist := congrArg String.toList h
  simp only [place, Nat.toString_eq_repr, String.toList_append, Nat.toList_repr, hdots,
    List.append_assoc, List.cons_append, List.nil_append] at hlist
  obtain ⟨hstart,hrest⟩ := append_cons_inj (hdot _) (hdot _) hlist
  have hstop := (List.cons.inj hrest).2
  exact congrArg₂ Span.mk (toDigits_inj (by decide) (by decide) hstart)
    (toDigits_inj (by decide) (by decide) hstop)

theorem render_injective (h : t.render = u.render) : t.kind = u.kind ∧ t.literal = u.literal := by
  have hopen : "(".toList = ['('] := rfl
  have htag (k : Kind) : '(' ∉ k.tag.toList := k.not_mem_tag (by decide)
  have hlist := congrArg String.toList h
  simp only [render, String.toList_append, hopen, List.append_assoc, List.cons_append,
    List.nil_append] at hlist
  obtain ⟨hkind,hquoted⟩ := append_cons_inj (htag _) (htag _) hlist
  obtain ⟨hliteral,_⟩ := quote_append_inj hquoted
  exact ⟨Kind.tag_injective (String.toList_inj.mp hkind),hliteral⟩

theorem line_injective (h : t.line = u.line) : t = u := by
  have hrender : t.render = u.render := by
    have hout := congrArg Listing.withoutPlace h
    rwa [line, line, Listing.withoutPlace_append t.space_not_mem_place,
      Listing.withoutPlace_append u.space_not_mem_place] at hout
  have hplace : t.place = u.place := by
    rw [line, line, hrender, ← String.toList_inj] at h
    rw [← String.toList_inj]
    simpa using h
  obtain ⟨hkind,hliteral⟩ := render_injective hrender
  have hspan := place_injective hplace
  change mk t.kind t.literal t.span = u
  rw [hkind, hliteral, hspan]

end Token

theorem lex_eq_of_listing_eq {s t : String} (h : listing s = listing t) :
    lex (utf8 s) = lex (utf8 t) := by
  have hlines := congrArg Listing.lines h
  rw [Listing.lines_listing, Listing.lines_listing] at hlines
  have hinj : Function.Injective Token.line := fun _ _ => Token.line_injective
  exact List.map_injective_iff.mpr hinj hlines

theorem listing_eq_iff_sameButBlanks (s t : String) :
    listing s = listing t ↔ SameButBlanks (utf8 s) (utf8 t) := by
  rw [← lex_eq_iff_sameButBlanks]
  constructor
  · exact lex_eq_of_listing_eq
  · intro h
    rw [listing, listing, h]

end LetLang
