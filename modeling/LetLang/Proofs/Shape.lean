import Mathlib.Data.List.Pairwise
import LetLang.Proofs.Excerpt
import LetLang.Proofs.Spacing

namespace LetLang

open Text

theorem Span.getLast?_slice {s : Span} {bytes : List UInt8} (h : s.start < s.stop)
    (hs : s.stop ≤ bytes.length) : (s.slice bytes).getLast? = bytes[s.stop - 1]? := by
  have hlt : s.stop - s.start - 1 < s.stop - s.start := by omega
  have hlast : s.start + (s.stop - s.start - 1) = s.stop - 1 := by omega
  rw [List.getLast?_eq_getElem?, length_slice hs, getElem?_slice, if_pos hlt, hlast]

namespace Kind

variable {k : Kind} {ws : List UInt8}

theorem Spelled.eq_semicolon (h : k.Spelled ws) (hm : 0x3B ∈ ws) :
    k = .punctuation .semicolon := by
  cases k with
  | keyword k => exact absurd (Keyword.isLetter_of_latin h 0x3B hm) (by decide)
  | operator o =>
    rw [eq_of_latin h] at hm
    revert hm
    cases o <;> decide
  | punctuation p =>
    rw [eq_of_latin h] at hm
    revert hm
    cases p <;> decide
  | ident => exact absurd (h.2.1 0x3B hm) (by decide)
  | int => exact absurd (h.2 0x3B hm) (by decide)
  | illegal =>
    obtain ⟨b,rfl,_,_,_,hp⟩ := h
    rw [← List.mem_singleton.mp hm] at hp
    exact absurd spelled_semicolon (hp .semicolon)
  | eof => exact h.elim

theorem Spelled.count_semicolon (h : k.Spelled ws) :
    ws.count 0x3B = if k = .punctuation .semicolon then 1 else 0 := by
  split
  · rename_i hk
    subst hk
    rw [eq_of_latin h]
    rfl
  · rename_i hk
    exact List.count_eq_zero.mpr (fun hm => hk (h.eq_semicolon hm))

end Kind

namespace Lexer

theorem count_semicolon (lx : Lexer) :
    lx.rest.count 0x3B = lx.tokens.countP (fun t => t.kind = .punctuation .semicolon) := by
  induction lx using scan_induction with
  | nil n =>
    rw [tokens_nil]
    rfl
  | blank n b bs hb ih =>
    have hne : b ≠ 0x3B := by
      rintro rfl
      exact absurd hb (by decide)
    rw [tokens_blank hb, ← ih]
    exact List.count_cons_of_ne hne
  | token n b bs hb ih =>
    have hcount := (lexeme_spelled b bs).count_semicolon
    have hsplit : b :: bs = (b :: bs.take (lexeme b bs).2) ++ bs.drop (lexeme b bs).2 := by
      rw [List.cons_append, List.take_append_drop]
    simp only [tokens_cons hb, List.countP_cons, decide_eq_true_eq, ← ih]
    rw [hsplit, List.count_append, hcount, Nat.add_comm]

end Lexer

theorem countP_stop_segments {last : Token} (h : last.kind = .eof) (ts : List Token) :
    (segments last ts).countP (fun s => s.stop.kind = .punctuation .semicolon) =
      ts.countP (fun t => t.kind = .punctuation .semicolon) := by
  calc (segments last ts).countP (fun s => s.stop.kind = .punctuation .semicolon) =
      ((segments last ts).map Segment.stop).countP
        (fun t => t.kind = .punctuation .semicolon) := by
        rw [List.countP_map]
        rfl
    _ = ts.countP (fun t => t.kind = .punctuation .semicolon) := by
        rw [map_stop_segments, List.countP_append, List.countP_filter]
        simp [h]

theorem length_statementsOf_le {last : Token} (h : last.kind = .eof) (ts : List Token) :
    (statementsOf last ts).length ≤ ts.countP (fun t => t.kind = .punctuation .semicolon) := by
  rw [statementsOf, List.length_filterMap_eq_countP, ← countP_stop_segments h]
  apply List.countP_mono_left
  intro s _ hs
  obtain ⟨x,hx⟩ := Option.isSome_iff_exists.mp hs
  exact decide_eq_true (Segment.statement?_eq_some_iff.mp hx).1

namespace Token

variable {bytes : List UInt8} {t u : Token}

theorem Lexed.utf8_literal (h : t.Lexed bytes) (hk : t.kind ≠ .illegal) :
    utf8 t.literal = t.span.slice bytes := by
  rw [h.literal]
  exact h.spelled.utf8_latin hk

theorem Lexed.stop_ne_start (ht : t.Lexed bytes) (hu : u.Lexed bytes)
    (h : ∀ b ∈ u.span.slice bytes, t.kind.extendedBy b) : t.span.stop ≠ u.span.start := by
  intro heq
  have hlt : u.span.start < bytes.length := Nat.lt_of_lt_of_le hu.nonempty hu.inside
  have hmem := Span.getElem_mem_slice hlt (s := u.span) ⟨Nat.le_refl _,hu.nonempty⟩
  refine ht.maximal bytes[u.span.start] ?_ (h _ hmem)
  rw [heq, List.getElem?_eq_getElem hlt]
  rfl

end Token

structure LetStatement.Shaped (bytes : List UInt8) (s : LetStatement) : Prop where
  value : s.value = none
  keyword_kind : s.token.kind = .keyword .letKey
  keyword_slice : s.token.span.slice bytes = utf8 "let"
  name_literal : s.name.value = s.name.token.literal
  name_word : Kind.ident.WellFormed s.name.value
  name_slice : s.name.span.slice bytes = utf8 s.name.value
  start : s.span.start = s.token.span.start
  gap : s.token.span.stop < s.name.span.start
  name_lt : s.name.span.stop < s.span.stop
  inside : s.span.stop ≤ bytes.length
  semicolons : (s.span.slice bytes).count 0x3B = 1
  last : (s.span.slice bytes).getLast? = some 0x3B

namespace Binding

variable {b : Binding} {bytes : List UInt8} {us vs : List Token}

theorem countP_tokens (b : Binding) :
    b.tokens.countP (fun t => t.kind = .punctuation .semicolon) = 1 := by
  have hvalue : b.value.countP (fun t => t.kind = .punctuation .semicolon) = 0 :=
    List.countP_eq_zero.mpr (fun v hv => by simpa using b.value_kind v hv)
  simp [tokens, hvalue, b.keyword_kind, b.name_kind, b.assign_kind, b.stop_kind]

section
variable (h : (Lexer.ofBytes bytes).tokens = us ++ b.tokens ++ vs)
include h

theorem count_slice : (b.statement.span.slice bytes).count 0x3B = 1 := by
  have hone := b.countP_tokens
  rw [← tokens_slice h, List.countP_map] at hone
  exact (Lexer.count_semicolon (.ofBytes (b.statement.span.slice bytes))).trans hone

theorem before_name : b.keyword.Before b.name :=
  (List.pairwise_cons.mp (pairwise_tokens h)).1 b.name List.mem_cons_self

theorem name_before_stop : b.name.Before b.stop :=
  (List.pairwise_cons.mp (List.pairwise_cons.mp (pairwise_tokens h)).2).1 b.stop (by simp)

theorem start_lt_stop : b.statement.span.start < b.statement.span.stop := by
  obtain ⟨hkeyword,hle⟩ := before_name h
  obtain ⟨hname,hle'⟩ := name_before_stop h
  have hne := (lexed h b.stop b.stop_mem).nonempty
  simp only [statement]
  omega

theorem getLast?_slice : (b.statement.span.slice bytes).getLast? = some 0x3B := by
  have hstop := lexed h b.stop b.stop_mem
  have hslice : b.stop.span.slice bytes = [0x3B] := by
    have hspelled := hstop.spelled
    rw [b.stop_kind] at hspelled
    exact eq_of_latin hspelled
  calc (b.statement.span.slice bytes).getLast? = bytes[b.stop.span.stop - 1]? :=
        Span.getLast?_slice (start_lt_stop h) hstop.inside
    _ = (b.stop.span.slice bytes).getLast? :=
        (Span.getLast?_slice hstop.nonempty hstop.inside).symm
    _ = some 0x3B := by
        rw [hslice]
        rfl

theorem shaped : b.statement.Shaped bytes := by
  have hkeyword := lexed h b.keyword b.keyword_mem
  have hname := lexed h b.name b.name_mem
  have hstop := lexed h b.stop b.stop_mem
  have hletters : ∀ c ∈ b.name.span.slice bytes, b.keyword.kind.extendedBy c := by
    have hspelled := hname.spelled
    rw [b.name_kind] at hspelled
    rw [b.keyword_kind]
    exact hspelled.2.1
  have hlet : b.keyword.literal = "let" := by
    have hwellFormed := hkeyword.wellFormed
    rwa [b.keyword_kind] at hwellFormed
  have hword := hname.wellFormed
  rw [b.name_kind] at hword
  refine ⟨rfl,b.keyword_kind,?_,rfl,hword,?_,rfl,?_,?_,hstop.inside,count_slice h,
    getLast?_slice h⟩
  · rw [← hlet]
    exact (hkeyword.utf8_literal (by simp [b.keyword_kind])).symm
  · exact (hname.utf8_literal (by simp [b.name_kind])).symm
  · have hne := hkeyword.stop_ne_start hname hletters
    exact Nat.lt_of_le_of_ne (before_name h).2 hne
  · exact Nat.lt_of_le_of_lt (name_before_stop h).2 hstop.nonempty

end

end Binding

namespace Span

def Covers (s t : Span) : Prop :=
  s.start ≤ t.start ∧ t.stop ≤ s.stop

structure IsHull (s : Span) (ss : List Span) : Prop where
  covers : ∀ t ∈ ss, s.Covers t
  least : ∀ u : Span, (∀ t ∈ ss, u.Covers t) → u.Covers s

structure Precedes (s t : Span) : Prop where
  disjoint : s.stop ≤ t.start
  start_lt : s.start < t.start
  stop_lt : s.stop < t.stop

theorem covers_merge_iff {s t u : Span} : u.Covers (s.merge t) ↔ u.Covers s ∧ u.Covers t := by
  simp only [Covers, merge]
  omega

end Span

theorem Program.isHull_span {p : Program} (hne : p.statements ≠ [])
    (h : p.statements.Pairwise (fun x y => x.span.Precedes y.span)) :
    p.span.IsHull (p.statements.map Statement.span) := by
  have hspan : p.span =
      (p.statements.head hne).span.merge (p.statements.getLast hne).span := by
    rw [span, List.head?_eq_some_head hne, List.getLast?_eq_some_getLast hne]
  have hstart := h.imp (fun hxy => Nat.le_of_lt hxy.start_lt)
  have hstop := h.imp (fun hxy => Nat.le_of_lt hxy.stop_lt)
  rw [hspan]
  constructor
  · intro t ht
    obtain ⟨x,hx,rfl⟩ := List.mem_map.mp ht
    have hfirst := hstart.rel_head_of_rel_head_head hx (Nat.le_refl _)
    have hlast := hstop.rel_getLast_of_rel_getLast_getLast hx (Nat.le_refl _)
    exact ⟨Nat.le_trans (Nat.min_le_left _ _) hfirst,Nat.le_trans hlast (Nat.le_max_right _ _)⟩
  · intro u hu
    have hfirst := hu _ (List.mem_map_of_mem (List.head_mem hne))
    have hlast := hu _ (List.mem_map_of_mem (List.getLast_mem hne))
    exact Span.covers_merge_iff.mpr ⟨hfirst,hlast⟩

namespace ParseResult

variable {bytes : List UInt8}

theorem exists_shaped {x : Statement} (hx : x ∈ (ofBytes bytes).program.statements) :
    ∃ s, x = .letStatement s ∧ s.Shaped bytes := by
  obtain ⟨us,b,vs,htokens,rfl⟩ := exists_binding_tokens hx
  exact ⟨b.statement,rfl,b.shaped htokens⟩

theorem statements_pairwise_le (bytes : List UInt8) :
    (ofBytes bytes).program.statements.Pairwise (fun x y => x.span.stop ≤ y.span.start) := by
  have hall := lex_pairwise_before bytes
  rw [Lexer.lex_eq, ← segments_flatten, List.pairwise_flatMap] at hall
  rw [ofBytes_eq]
  refine List.pairwise_filterMap.mpr (hall.2.imp_of_mem ?_)
  intro s t hs ht hbefore x hx y hy
  obtain ⟨us,b,hb,rfl⟩ :=
    Segment.exists_binding_of_statement? (fun t ht => ne_semicolon_of_mem_body hs ht) hx
  obtain ⟨vs,c,hc,rfl⟩ :=
    Segment.exists_binding_of_statement? (fun u hu => ne_semicolon_of_mem_body ht hu) hy
  rw [hb, hc] at hbefore
  exact (hbefore b.stop (List.mem_append_right us b.stop_mem) c.keyword
    (List.mem_append_right vs c.keyword_mem)).2

theorem statement_start_lt_stop {x : Statement} (hx : x ∈ (ofBytes bytes).program.statements) :
    x.span.start < x.span.stop := by
  obtain ⟨us,b,vs,htokens,rfl⟩ := exists_binding_tokens hx
  exact b.start_lt_stop htokens

theorem statements_pairwise_precedes (bytes : List UInt8) :
    (ofBytes bytes).program.statements.Pairwise (fun x y => x.span.Precedes y.span) := by
  apply (statements_pairwise_le bytes).imp_of_mem
  intro x y hx hy hle
  have hxlt := statement_start_lt_stop hx
  have hylt := statement_start_lt_stop hy
  exact ⟨hle,by omega,by omega⟩

theorem length_statements_le (bytes : List UInt8) :
    (ofBytes bytes).program.statements.length ≤ bytes.count 0x3B := by
  have hcount := Lexer.count_semicolon (.ofBytes bytes)
  rw [ofBytes_eq]
  exact (length_statementsOf_le rfl (Lexer.ofBytes bytes).tokens).trans_eq hcount.symm

theorem statements_shape (bytes : List UInt8) :
    (∀ x ∈ (ofBytes bytes).program.statements, ∃ s, x = .letStatement s ∧ s.Shaped bytes) ∧
    (ofBytes bytes).program.statements.Pairwise (fun x y => x.span.Precedes y.span) ∧
    (ofBytes bytes).program.statements.length ≤ bytes.count 0x3B ∧
    ((ofBytes bytes).program.statements ≠ [] → (ofBytes bytes).program.span.IsHull
      ((ofBytes bytes).program.statements.map Statement.span)) ∧
    ((ofBytes bytes).program.statements = [] → (ofBytes bytes).program.span = ⟨0,0⟩) := by
  have hordered := statements_pairwise_precedes bytes
  refine ⟨fun _ => exists_shaped,hordered,length_statements_le bytes,?_,?_⟩
  · intro hne
    exact Program.isHull_span hne hordered
  · intro hnil
    rw [Program.span, hnil]
    rfl

theorem statements_shape_after_failed_let :
    .letStatement ⟨⟨.keyword .letKey,"let",⟨4,7⟩⟩,.ofToken ⟨.ident,"a",⟨8,9⟩⟩,none,
        ⟨4,13⟩⟩ ∈ (ofBytes (utf8 "let;let a=é;;let b=;")).program.statements ∧
      LetStatement.Shaped (utf8 "let;let a=é;;let b=;") ⟨⟨.keyword .letKey,"let",⟨4,7⟩⟩,
        .ofToken ⟨.ident,"a",⟨8,9⟩⟩,none,⟨4,13⟩⟩ ∧
      (ofBytes (utf8 "let;let a=é;;let b=;")).program.span.IsHull [⟨4,13⟩, ⟨14,21⟩] ∧
      (ofBytes (utf8 "let 1;")).program.statements = [] ∧
      (ofBytes (utf8 "let 1;")).program.span = ⟨0,0⟩ := by
  have hmem : .letStatement ⟨⟨.keyword .letKey,"let",⟨4,7⟩⟩,.ofToken ⟨.ident,"a",⟨8,9⟩⟩,
      none,⟨4,13⟩⟩ ∈ (ofBytes (utf8 "let;let a=é;;let b=;")).program.statements := by
    decide +kernel
  have hspans : (ofBytes (utf8 "let;let a=é;;let b=;")).program.statements.map Statement.span =
      [⟨4,13⟩, ⟨14,21⟩] := by decide +kernel
  have hnone : (ofBytes (utf8 "let 1;")).program.statements = [] := by decide +kernel
  obtain ⟨hshaped,_,_,hhull,_⟩ := statements_shape (utf8 "let;let a=é;;let b=;")
  obtain ⟨_,_,_,_,hzero⟩ := statements_shape (utf8 "let 1;")
  obtain ⟨s,hs,hshape⟩ := hshaped _ hmem
  cases hs
  exact ⟨hmem,hshape,hspans ▸ hhull (List.ne_nil_of_mem hmem),hnone,hzero hnone⟩

end ParseResult

end LetLang
