import Mathlib.Data.Set.List
import LetLang.Proofs.Boundary
import LetLang.Proofs.Linewise

namespace LetLang

open Text

namespace Span

variable {s t : Span} {bytes : List UInt8} {n i : Nat}

theorem length_slice (h : s.stop ≤ bytes.length) :
    (s.slice bytes).length = s.stop - s.start := by
  rw [slice, List.length_take, List.length_drop]
  omega

theorem slice_slice (h : t.stop + s.start ≤ s.stop) :
    t.slice (s.slice bytes) = (t.shift s.start).slice bytes := by
  apply List.ext_getElem?
  intro i
  simp only [getElem?_slice, shift, Nat.add_sub_add_right]
  split
  · have hlt : t.start + i < s.stop - s.start := by omega
    have hadd : s.start + (t.start + i) = t.start + s.start + i := by omega
    rw [if_pos hlt, hadd]
  · rfl

theorem holds_shift_iff : (s.shift n).Holds (n + i) ↔ s.Holds i := by
  simp only [Holds, shift]
  omega

end Span

namespace Token

variable {t u : Token} {n : Nat}

theorem shift_injective (n : Nat) : Function.Injective (shift n) := by
  rintro ⟨k,literal,start,stop⟩ ⟨l,literal',start',stop'⟩ h
  simp only [shift, Span.shift, mk.injEq, Span.mk.injEq, Nat.add_right_cancel_iff] at h ⊢
  exact h

theorem mem_range_shift (hstart : n ≤ t.span.start) (hstop : n ≤ t.span.stop) :
    t ∈ Set.range (shift n) := by
  refine ⟨{ t with span := ⟨t.span.start - n,t.span.stop - n⟩ },?_⟩
  simp only [shift, Span.shift, Nat.sub_add_cancel hstart, Nat.sub_add_cancel hstop]

theorem Lexed.slice {bytes : List UInt8} {s : Span} (h : (t.shift s.start).Lexed bytes)
    (hin : t.span.stop + s.start ≤ s.stop) (hs : s.stop ≤ bytes.length) :
    t.Lexed (s.slice bytes) := by
  have hslice : t.span.slice (s.slice bytes) = (t.shift s.start).span.slice bytes :=
    Span.slice_slice hin
  refine ⟨?_,?_,?_,?_,?_,?_⟩
  · exact Nat.lt_of_add_lt_add_right h.nonempty
  · rw [Span.length_slice hs]
    omega
  · rw [hslice]
    exact h.noBlank
  · rw [hslice]
    exact h.literal
  · rw [hslice]
    exact h.spelled
  · intro b hb
    rw [Span.getElem?_slice, Nat.add_comm] at hb
    split at hb
    · exact h.maximal b hb
    · cases hb

end Token

section
variable {bytes : List UInt8} {s : Span} {us ts vs : List Token} (hs : s.stop ≤ bytes.length)
  (hus : ∀ u ∈ us, u.span.stop ≤ s.start) (hts : ∀ t ∈ ts, t.span.stop + s.start ≤ s.stop)
  (hvs : ∀ v ∈ vs, s.stop ≤ v.span.start)
include hs hus hts hvs

theorem Tokenization.slice
    (h : Tokenization bytes 0 (us ++ ts.map (Token.shift s.start) ++ vs)) :
    Tokenization (s.slice bytes) 0 ts := by
  have hmem {t : Token} (ht : t ∈ ts) :
      t.shift s.start ∈ us ++ ts.map (Token.shift s.start) ++ vs :=
    List.mem_append_left vs (List.mem_append_right us (List.mem_map_of_mem ht))
  refine ⟨?_,fun t _ => Nat.zero_le _,?_,?_⟩
  · intro t ht
    exact (h.lexed _ (hmem ht)).slice (hts t ht) hs
  · have hord := (List.pairwise_append.mp (List.pairwise_append.mp h.ordered).1).2.1
    apply (List.pairwise_map.mp hord).imp
    intro t u hle
    exact Nat.le_of_add_le_add_right hle
  · intro i hi _ hblank
    have hlen := Span.length_slice hs
    have hbound : s.start + i < bytes.length := by omega
    have hget : (s.slice bytes)[i] = bytes[s.start + i] := by
      have hsome := s.getElem?_slice bytes i
      rw [if_pos (by omega), List.getElem?_eq_getElem hi, List.getElem?_eq_getElem hbound] at hsome
      exact Option.some.inj hsome
    obtain ⟨t,⟨ht,hold⟩,huniq⟩ := h.covered _ hbound (Nat.zero_le _) (hget ▸ hblank)
    rcases List.mem_append.mp ht with ht | ht
    · rcases List.mem_append.mp ht with ht | ht
      · have hle := hus t ht
        have hlt := hold.2
        omega
      · obtain ⟨u,hu,rfl⟩ := List.mem_map.mp ht
        refine ⟨u,⟨hu,Span.holds_shift_iff.mp hold⟩,?_⟩
        rintro v ⟨hv,hvold⟩
        apply Token.shift_injective s.start
        exact huniq _ ⟨hmem hv,Span.holds_shift_iff.mpr hvold⟩
    · have hle := hvs t ht
      have hge := hold.1
      omega

theorem Lexer.tokens_slice
    (h : (ofBytes bytes).tokens = us ++ ts.map (Token.shift s.start) ++ vs) :
    (ofBytes (s.slice bytes)).tokens = ts := by
  have htok := tokenization_ofBytes bytes
  rw [h] at htok
  exact ((tokenization_ofBytes_iff _ _).mp (htok.slice hs hus hts hvs)).symm

end

namespace Binding

variable {b : Binding} {bytes : List UInt8} {us vs : List Token}

theorem within (h : b.tokens.Pairwise Token.Before)
    (hstop : b.stop.span.start ≤ b.stop.span.stop) :
    ∀ t ∈ b.tokens,
      b.keyword.span.start ≤ t.span.start ∧ t.span.stop ≤ b.stop.span.stop := by
  have hinit : b.tokens = b.keyword :: b.name :: b.assign :: b.value ++ [b.stop] := rfl
  intro t ht
  constructor
  · rcases List.mem_cons.mp ht with rfl | ht
    · exact Nat.le_refl _
    · obtain ⟨hlt,hle⟩ := (List.pairwise_cons.mp h).1 t ht
      omega
  · rw [hinit] at h ht
    rcases List.mem_append.mp ht with ht | ht
    · obtain ⟨_,hle⟩ := (List.pairwise_append.mp h).2.2 t ht b.stop (List.mem_singleton_self _)
      omega
    · rw [List.mem_singleton.mp ht]

section
variable (h : (Lexer.ofBytes bytes).tokens = us ++ b.tokens ++ vs)
include h

theorem lexed : ∀ t ∈ b.tokens, t.Lexed bytes := by
  intro t ht
  apply Lexer.lexed_of_mem
  rw [h]
  exact List.mem_append_left vs (List.mem_append_right us ht)

theorem pairwise_before : (us ++ b.tokens ++ vs).Pairwise Token.Before := by
  have hall := lex_pairwise_before bytes
  rw [lex_eq_append_eof, h] at hall
  exact (List.pairwise_append.mp hall).1

theorem pairwise_tokens : b.tokens.Pairwise Token.Before :=
  (List.pairwise_append.mp (List.pairwise_append.mp (pairwise_before h)).1).2.1

theorem tokens_mem_range :
    b.tokens ∈ Set.range (List.map (Token.shift b.keyword.span.start)) := by
  have hstop := lexed h b.stop b.stop_mem
  have hwithin := within (pairwise_tokens h) (Nat.le_of_lt hstop.nonempty)
  rw [Set.range_list_map]
  intro t ht
  obtain ⟨hle,_⟩ := hwithin t ht
  exact Token.mem_range_shift hle (Nat.le_trans hle (Nat.le_of_lt (lexed h t ht).nonempty))

theorem tokens_slice :
    (Lexer.ofBytes (b.statement.span.slice bytes)).tokens.map (Token.shift b.keyword.span.start) =
      b.tokens := by
  obtain ⟨hinit,_,hvs⟩ := List.pairwise_append.mp (pairwise_before h)
  obtain ⟨_,hb,hus⟩ := List.pairwise_append.mp hinit
  have hstop := lexed h b.stop b.stop_mem
  have hwithin := within hb (Nat.le_of_lt hstop.nonempty)
  obtain ⟨ts,hts⟩ := tokens_mem_range h
  have hslice : (Lexer.ofBytes (b.statement.span.slice bytes)).tokens = ts := by
    refine Lexer.tokens_slice (s := b.statement.span) hstop.inside (?_ : ∀ u ∈ us, _) ?_
      (?_ : ∀ v ∈ vs, _) ?_
    · intro u hu
      exact (hus u hu b.keyword b.keyword_mem).2
    · intro t ht
      have hmem : t.shift b.keyword.span.start ∈ b.tokens := hts ▸ List.mem_map_of_mem ht
      exact (hwithin _ hmem).2
    · intro v hv
      exact (hvs b.stop (List.mem_append_right us b.stop_mem) v hv).2
    · exact h.trans (congrArg (us ++ · ++ vs) hts.symm)
  rw [hslice, hts]

end

end Binding

namespace ParseResult

variable {bytes : List UInt8} {x : Statement} (hx : x ∈ (ofBytes bytes).program.statements)
include hx

theorem exists_binding_tokens :
    ∃ (us : List Token) (b : Binding) (vs : List Token),
      (Lexer.ofBytes bytes).tokens = us ++ b.tokens ++ vs ∧ x = .letStatement b.statement := by
  obtain ⟨us,b,vs,hlex,rfl⟩ := exists_binding hx
  rw [lex_eq_append_eof] at hlex
  rcases List.eq_nil_or_concat vs with rfl | ⟨vs,e,rfl⟩
  · have hlast := congrArg List.getLast? hlex
    rw [List.append_nil, List.getLast?_concat, List.getLast?_append, b.getLast?_tokens] at hlast
    have hk := b.stop_kind
    rw [← Option.some.inj hlast] at hk
    cases hk
  · rw [List.concat_eq_append, ← List.append_assoc] at hlex
    exact ⟨us,b,vs,(List.append_inj' hlex rfl).1,rfl⟩

theorem exists_binding_slice :
    ∃ b : Binding, x = .letStatement b.statement ∧
      (Lexer.ofBytes (x.span.slice bytes)).tokens.map (Token.shift x.span.start) = b.tokens := by
  obtain ⟨us,b,vs,htokens,rfl⟩ := exists_binding_tokens hx
  exact ⟨b,rfl,Binding.tokens_slice htokens⟩

theorem exists_ofBytes_slice :
    ∃ y, y.shift x.span.start = x ∧ ofBytes (x.span.slice bytes) = ⟨⟨[y]⟩,[]⟩ := by
  obtain ⟨b,hb,htokens⟩ := exists_binding_slice hx
  generalize hlx : Lexer.ofBytes (x.span.slice bytes) = lx at htokens
  obtain ⟨hst,hf⟩ := Production.yield_flatMap (lx.last.shift x.span.start) [.binding b]
  rw [List.flatMap_singleton, Production.tokens, ← htokens, statementsOf_map_shift] at hst
  rw [List.flatMap_singleton, Production.tokens, ← htokens, faultsFrom_true,
    faultsOf_map_shift] at hf
  obtain ⟨y,hy,hshift⟩ := List.map_eq_singleton_iff.mp hst
  refine ⟨y,hshift.trans hb.symm,?_⟩
  rw [ofBytes_eq, hlx, hy, List.map_eq_nil_iff.mp hf]

theorem getLast?_tokens_slice :
    ∀ t ∈ (Lexer.ofBytes (x.span.slice bytes)).tokens.getLast?,
      t.kind = .punctuation .semicolon := by
  obtain ⟨b,_,htokens⟩ := exists_binding_slice hx
  intro t ht
  have hlast := congrArg List.getLast? htokens
  rw [List.getLast?_map, Option.mem_def.mp ht, b.getLast?_tokens] at hlast
  have hk := b.stop_kind
  rwa [← Option.some.inj hlast] at hk

end ParseResult

namespace Text

theorem IsBoundary.exists_append {source : String} {n : Nat} (h : IsBoundary source n) :
    ∃ t u, source = t ++ u ∧ (utf8 t).length = n := by
  obtain ⟨t,u,rfl,hn⟩ := String.Pos.Raw.isValid_iff_exists_append.mp h
  refine ⟨t,u,rfl,?_⟩
  rw [length_utf8]
  exact congrArg String.Pos.Raw.byteIdx hn.symm

theorem exists_isSlice {source : String} {s : Span} (hstart : IsBoundary source s.start)
    (hstop : IsBoundary source s.stop) (hle : s.start ≤ s.stop) :
    ∃ part, IsSlice source s part := by
  obtain ⟨start,stop⟩ := s
  obtain ⟨t,u,rfl,rfl⟩ := hstart.exists_append
  obtain ⟨v,w,heq,rfl⟩ := hstop.exists_append
  have hlist := congrArg String.toList heq
  rw [String.toList_append, String.toList_append] at hlist
  rcases List.append_eq_append_iff.mp hlist with ⟨cs,hv,hu⟩ | ⟨cs,ht,_⟩
  · obtain rfl : v = t ++ .ofList cs := by
      rw [← String.toList_inj, hv, String.toList_append, String.toList_ofList]
    refine ⟨.ofList cs,t,w,heq,?_⟩
    rw [utf8_append, List.length_append]
  · obtain rfl : t = v ++ .ofList cs := by
      rw [← String.toList_inj, ht, String.toList_append, String.toList_ofList]
    simp only [utf8_append, List.length_append] at hle ⊢
    refine ⟨"",v ++ .ofList cs,u,by rw [String.append_empty],?_⟩
    have hempty : (utf8 "").length = 0 := rfl
    rw [hempty, utf8_append, List.length_append, Span.mk.injEq]
    omega

theorem IsSlice.slice_utf8 {source part : String} {s : Span} (h : IsSlice source s part) :
    s.slice (utf8 source) = utf8 part := by
  obtain ⟨t,u,rfl,rfl⟩ := h
  rw [Span.slice, utf8_append, utf8_append, List.append_assoc, List.drop_left,
    Nat.add_sub_cancel_left, List.take_left]

end Text

theorem exists_forall₂ {α β : Type} {R : α → β → Prop} {p : β → Prop} {xs : List α}
    (h : ∀ x ∈ xs, ∃ y, R x y ∧ p y) : ∃ ys, List.Forall₂ R xs ys ∧ ∀ y ∈ ys, p y := by
  induction xs with
  | nil => exact ⟨[],.nil,by simp⟩
  | cons x xs ih =>
    obtain ⟨⟨y,hy,hp⟩,hxs⟩ := List.forall_mem_cons.mp h
    obtain ⟨ys,hys,hall⟩ := ih hxs
    exact ⟨y :: ys,.cons hy hys,List.forall_mem_cons.mpr ⟨hp,hall⟩⟩

def laidOut (n : Nat) : List (String × Statement) → List Statement
  | [] => []
  | c :: cs => c.2.shift n :: laidOut (n + (utf8 c.1).length) cs

theorem yield_laidOut {cs : List (String × Statement)}
    (h : ∀ c ∈ cs, parse c.1 = ⟨⟨[c.2]⟩,[]⟩ ∧
      ∀ t ∈ (Lexer.ofText c.1).tokens.getLast?, t.kind = .punctuation .semicolon)
    (last : Token) (n : Nat) :
    statementsOf last (Lexer.tokens ⟨n,utf8 (String.join (cs.map Prod.fst))⟩) = laidOut n cs ∧
      faultsOf last (Lexer.tokens ⟨n,utf8 (String.join (cs.map Prod.fst))⟩) = [] := by
  induction cs generalizing n with
  | nil =>
    have hnil : Lexer.tokens ⟨n,utf8 (String.join [])⟩ = [] := Lexer.tokens_nil n
    rw [List.map_nil, hnil, ← faultsFrom_true]
    exact ⟨statementsOf_nil last,faultsFrom_nil true last⟩
  | cons c cs ih =>
    obtain ⟨⟨hparse,hlast⟩,hcs⟩ := List.forall_mem_cons.mp h
    obtain ⟨hst,hf⟩ := ih hcs (n + (utf8 c.1).length)
    have htokens : Lexer.tokens ⟨n,utf8 c.1⟩ = (Lexer.ofText c.1).tokens.map (Token.shift n) :=
      Lexer.tokens_eq_map_shift n (utf8 c.1)
    have hclosed : ∀ t ∈ (Lexer.tokens ⟨n,utf8 c.1⟩).getLast?,
        t.kind = .punctuation .semicolon := by
      intro t ht
      rw [htokens, List.getLast?_map] at ht
      obtain ⟨u,hu,rfl⟩ := Option.map_eq_some_iff.mp ht
      exact hlast u hu
    have happ :=
      Lexer.tokens_append_of_semicolon hclosed (utf8 (String.join (cs.map Prod.fst)))
    rw [parse, ParseResult.ofBytes_eq, ParseResult.mk.injEq, Program.mk.injEq] at hparse
    rw [List.map_cons, String.join_cons, utf8_append, happ,
      statementsOf_append hclosed last ((Lexer.ofText c.1).last.shift n),
      faultsOf_append hclosed last ((Lexer.ofText c.1).last.shift n), hst, hf, htokens,
      statementsOf_map_shift, faultsOf_map_shift, Lexer.ofText, hparse.1, hparse.2]
    exact ⟨rfl,rfl⟩

theorem parse_join_laidOut {cs : List (String × Statement)}
    (h : ∀ c ∈ cs, parse c.1 = ⟨⟨[c.2]⟩,[]⟩ ∧
      ∀ t ∈ (Lexer.ofText c.1).tokens.getLast?, t.kind = .punctuation .semicolon) :
    parse (String.join (cs.map Prod.fst)) = ⟨⟨laidOut 0 cs⟩,[]⟩ := by
  obtain ⟨hst,hf⟩ := yield_laidOut h (Lexer.ofText (String.join (cs.map Prod.fst))).last 0
  rw [← hst, ← hf, parse, ParseResult.ofBytes_eq]
  rfl

namespace ParseResult

theorem exists_excerpt {source : String} {x : Statement}
    (hx : x ∈ (parse source).program.statements) :
    ∃ part y, IsSlice source x.span part ∧ y.shift x.span.start = x ∧
      parse part = ⟨⟨[y]⟩,[]⟩ ∧
        ∀ t ∈ (Lexer.ofText part).tokens.getLast?, t.kind = .punctuation .semicolon := by
  obtain ⟨hstart,hstop⟩ := statement_boundaries hx x.span x.span_mem_spans
  obtain ⟨part,hpart⟩ := exists_isSlice hstart hstop (statement_within hx x.span x.span_mem_spans).1
  obtain ⟨y,hshift,hparse⟩ := exists_ofBytes_slice hx
  have hlast := getLast?_tokens_slice hx
  rw [hpart.slice_utf8] at hparse hlast
  exact ⟨part,y,hpart,hshift,hparse,hlast⟩

theorem parse_excerpts (source : String) :
    (∀ x ∈ (parse source).program.statements, ∃ part y, IsSlice source x.span part ∧
      y.shift x.span.start = x ∧ parse part = ⟨⟨[y]⟩,[]⟩) ∧
    ∃ cs : List (String × Statement),
      List.Forall₂ (fun x c => IsSlice source x.span c.1 ∧ c.2.shift x.span.start = x)
        (parse source).program.statements cs ∧
      parse (String.join (cs.map Prod.fst)) = ⟨⟨laidOut 0 cs⟩,[]⟩ := by
  constructor
  · intro x hx
    obtain ⟨part,y,hpart,hshift,hparse,_⟩ := exists_excerpt hx
    exact ⟨part,y,hpart,hshift,hparse⟩
  · have hcuts : ∀ x ∈ (parse source).program.statements, ∃ c : String × Statement,
        (IsSlice source x.span c.1 ∧ c.2.shift x.span.start = x) ∧ parse c.1 = ⟨⟨[c.2]⟩,[]⟩ ∧
          ∀ t ∈ (Lexer.ofText c.1).tokens.getLast?, t.kind = .punctuation .semicolon := by
      intro x hx
      obtain ⟨part,y,hpart,hshift,hparse,hlast⟩ := exists_excerpt hx
      exact ⟨(part, y),⟨hpart,hshift⟩,hparse,hlast⟩
    obtain ⟨cs,hcs,hall⟩ := exists_forall₂ hcuts
    exact ⟨cs,hcs,parse_join_laidOut hall⟩

theorem parse_excerpts_after_failed_let :
    .letStatement ⟨⟨.keyword .letKey,"let",⟨8,11⟩⟩,.ofToken ⟨.ident,"x",⟨12,13⟩⟩,none,
        ⟨8,23⟩⟩ ∈ (parse "é! let let x = let é;; let y = ;").program.statements ∧
      ∃ part y, IsSlice "é! let let x = let é;; let y = ;" ⟨8,23⟩ part ∧
        y.shift 8 = .letStatement ⟨⟨.keyword .letKey,"let",⟨8,11⟩⟩,
          .ofToken ⟨.ident,"x",⟨12,13⟩⟩,none,⟨8,23⟩⟩ ∧ parse part = ⟨⟨[y]⟩,[]⟩ := by
  have hmem : .letStatement ⟨⟨.keyword .letKey,"let",⟨8,11⟩⟩,
      .ofToken ⟨.ident,"x",⟨12,13⟩⟩,none,⟨8,23⟩⟩ ∈
        (parse "é! let let x = let é;; let y = ;").program.statements := by decide +kernel
  exact ⟨hmem,(parse_excerpts "é! let let x = let é;; let y = ;").1 _ hmem⟩

end ParseResult

end LetLang
