import LetLang.Proofs.Bounds
import LetLang.Proofs.Encoding

namespace LetLang

open Text
open String (utf8EncodeChar)

namespace Text

def IsBoundary (source : String) (n : Nat) : Prop :=
  String.Pos.Raw.IsValid source ⟨n⟩

theorem length_utf8 (s : String) : (utf8 s).length = s.utf8ByteSize := by
  rw [utf8, Array.length_toList, ← String.size_toByteArray]
  rfl

theorem isBoundary_of_append (t u : String) : IsBoundary (t ++ u) (utf8 t).length := by
  refine String.Pos.Raw.isValid_iff_exists_append.mpr ⟨t,u,rfl,?_⟩
  rw [length_utf8]
  rfl

def IsSlice (source : String) (s : Span) (part : String) : Prop :=
  ∃ t u, source = t ++ part ++ u ∧ s = ⟨(utf8 t).length,(utf8 t).length + (utf8 part).length⟩

theorem IsSlice.isBoundary {source part : String} {s : Span} (h : IsSlice source s part) :
    IsBoundary source s.start ∧ IsBoundary source s.stop := by
  obtain ⟨t,u,rfl,rfl⟩ := h
  constructor
  · rw [String.append_assoc]
    exact isBoundary_of_append t (part ++ u)
  · have hb := isBoundary_of_append (t ++ part) u
    rwa [utf8_append, List.length_append] at hb

def IsByteOf (source : String) (c : Char) (i : Nat) (s : Span) : Prop :=
  ∃ n, IsSlice source ⟨n,n + c.utf8Size⟩ (String.singleton c) ∧ 2 ≤ c.utf8Size ∧
    i < c.utf8Size ∧ s = ⟨n + i,n + i + 1⟩

theorem lt_of_isLetter {b : UInt8} (h : isLetter b) : b.toNat < 0x80 := by
  simp only [isLetter, Bool.or_eq_true, Bool.and_eq_true, decide_eq_true_eq, beq_iff_eq,
    UInt8.le_iff_toNat_le, ← UInt8.toNat_inj] at h
  simp only [UInt8.reduceToNat] at h
  omega

theorem lt_of_isDigit {b : UInt8} (h : isDigit b) : b.toNat < 0x80 := by
  simp only [isDigit, Bool.and_eq_true, decide_eq_true_eq, UInt8.le_iff_toNat_le] at h
  simp only [UInt8.reduceToNat] at h
  omega

theorem lt_of_isBlank {b : UInt8} (h : isBlank b) : b.toNat < 0x80 := by
  simp only [isBlank, Bool.or_eq_true, beq_iff_eq] at h
  rcases h with ((rfl | rfl) | rfl) | rfl <;> decide

theorem exists_latin_prefix {ws bs : List UInt8} (h : ∀ b ∈ ws, b.toNat < 0x80) {s : String}
    (heq : utf8 s = ws ++ bs) : ∃ u, s = latin ws ++ u ∧ utf8 u = bs := by
  induction ws generalizing s with
  | nil => exact ⟨s,String.empty_append.symm,heq⟩
  | cons b ws ih =>
    obtain ⟨hb,hws⟩ := List.forall_mem_cons.mp h
    have hcut : utf8 s = [] ++ b :: (ws ++ bs) := heq
    obtain ⟨t,c,u,rfl,hc,hnil,hu⟩ := exists_ascii_of_utf8_eq hb hcut
    obtain ⟨v,rfl,hv⟩ := ih hws hu
    have ht : t = "" := by
      apply String.utf8ByteSize_eq_zero_iff.mp
      rw [← length_utf8, hnil, List.length_nil]
    have hlatin : latin (b :: ws) = String.singleton c ++ latin ws := by
      rw [eq_ofUInt8_of_utf8EncodeChar hc hb, String.singleton_eq_ofList]
      exact latin_append [b] ws
    refine ⟨v,?_,hv⟩
    rw [ht, hlatin, String.empty_append, String.append_assoc]

theorem exists_slice_of_ascii {source : String} {as ws bs : List UInt8} (hne : ws ≠ [])
    (h : ∀ b ∈ ws, b.toNat < 0x80) (heq : utf8 source = as ++ ws ++ bs) :
    IsSlice source ⟨as.length,as.length + ws.length⟩ (latin ws) := by
  obtain ⟨b,cs,rfl⟩ := List.exists_cons_of_ne_nil hne
  rw [List.append_assoc, List.cons_append] at heq
  obtain ⟨t,c,u,rfl,hc,rfl,hu⟩ := exists_ascii_of_utf8_eq (h b List.mem_cons_self) heq
  have hrest : utf8 (String.singleton c ++ u) = (b :: cs) ++ bs := by
    rw [utf8_append, utf8_singleton, hc, hu]
    rfl
  obtain ⟨v,hv,rfl⟩ := exists_latin_prefix h hrest
  have hpart : utf8 (latin (b :: cs)) = b :: cs := by
    rw [hv, utf8_append] at hrest
    exact List.append_cancel_right hrest
  refine ⟨t,v,?_,?_⟩
  · rw [String.append_assoc, String.append_assoc, hv]
  · rw [hpart]

theorem exists_byteOf_of_high {source : String} {as bs : List UInt8} {b : UInt8}
    (h : 0x80 ≤ b.toNat) (heq : utf8 source = as ++ b :: bs) :
    ∃ c i, IsByteOf source c i ⟨as.length,as.length + 1⟩ := by
  obtain ⟨t,c,u,us,vs,rfl,hc,rfl,rfl⟩ := exists_char_of_utf8_eq heq
  have hsize : c.utf8Size = us.length + (vs.length + 1) := by
    rw [← String.length_utf8EncodeChar, hc, List.length_append, List.length_cons]
  have hlong : 2 ≤ c.utf8Size := by
    rcases Nat.lt_or_ge c.toNat 0x80 with hlt | hge
    · have hmem : b ∈ utf8EncodeChar c := by simp [hc]
      rw [utf8EncodeChar_of_lt hlt, List.mem_singleton] at hmem
      rw [hmem, toNat_toUInt8 hlt] at h
      omega
    · have hne : c.utf8Size ≠ 1 := by
        intro h1
        have hle := UInt32.le_iff_toNat_le.mp (Char.utf8Size_eq_one_iff.mp h1)
        have hval : c.toNat ≤ 127 := hle
        omega
      have hpos := c.utf8Size_pos
      omega
  refine ⟨c,us.length,(utf8 t).length,⟨t,u,rfl,?_⟩,hlong,by omega,?_⟩
  · rw [utf8_singleton, String.length_utf8EncodeChar]
  · rw [List.length_append]

end Text

theorem Kind.Spelled.lt_of_mem {k : Kind} {bs : List UInt8} (h : k.Spelled bs)
    (hk : k ≠ .illegal) : ∀ b ∈ bs, b.toNat < 0x80 := by
  cases k with
  | keyword k => exact fun b hb => lt_of_isLetter (Keyword.isLetter_of_latin h b hb)
  | operator o =>
    have hall : (o.spelling.toList.map Char.toUInt8).all (·.toNat < 0x80) := by cases o <;> decide
    rw [eq_of_latin h]
    exact fun b hb => of_decide_eq_true (List.all_eq_true.mp hall b hb)
  | punctuation p =>
    have hall : (p.spelling.toList.map Char.toUInt8).all (·.toNat < 0x80) := by cases p <;> decide
    rw [eq_of_latin h]
    exact fun b hb => of_decide_eq_true (List.all_eq_true.mp hall b hb)
  | ident => exact fun b hb => lt_of_isLetter (h.2.1 b hb)
  | int => exact fun b hb => lt_of_isDigit (h.2 b hb)
  | illegal => exact absurd rfl hk
  | eof => exact h.elim

theorem Kind.Spelled.utf8_latin {k : Kind} {bs : List UInt8} (h : k.Spelled bs)
    (hk : k ≠ .illegal) : utf8 (latin bs) = bs := by
  apply latin_inj
  apply latin_utf8_of_ascii
  intro c hc
  rw [latin, String.toList_ofList] at hc
  obtain ⟨b,hb,rfl⟩ := List.mem_map.mp hc
  exact h.lt_of_mem hk b hb

theorem Kind.spelled_illegal_of_high {b : UInt8} (h : 0x80 ≤ b.toNat) :
    Kind.illegal.Spelled [b] := by
  have hl : ¬isLetter b := fun hl => absurd (lt_of_isLetter hl) (Nat.not_lt.mpr h)
  have hd : ¬isDigit b := fun hd => absurd (lt_of_isDigit hd) (Nat.not_lt.mpr h)
  have hs := spelled_singleSign hl hd
  have hk : singleSign b = .illegal := by
    by_contra hk
    exact absurd (hs.lt_of_mem hk b (List.mem_singleton_self b)) (Nat.not_lt.mpr h)
  rwa [hk] at hs

theorem Kind.not_extendedBy_high {b : UInt8} (h : 0x80 ≤ b.toNat) (k : Kind) :
    ¬k.extendedBy b := by
  have hl : ¬isLetter b := fun hl => absurd (lt_of_isLetter hl) (Nat.not_lt.mpr h)
  have hd : ¬isDigit b := fun hd => absurd (lt_of_isDigit hd) (Nat.not_lt.mpr h)
  have he : Char.ofUInt8 b ≠ '=' := by
    intro he
    have hn : b.toNat = '='.toNat := congrArg Char.toNat he
    rw [hn] at h
    exact absurd h (by decide)
  exact k.not_extendedBy hl hd he

namespace Lexer

theorem tokens_of_high {hs : List UInt8} (h : ∀ b ∈ hs, 0x80 ≤ b.toNat) (n : Nat)
    (bs : List UInt8) :
    tokens ⟨n,hs ++ bs⟩ =
      hs.mapIdx (fun i b => ⟨.illegal,latin [b],⟨n + i,n + i + 1⟩⟩) ++
        tokens ⟨n + hs.length,bs⟩ := by
  induction hs generalizing n with
  | nil => rfl
  | cons b hs ih =>
    obtain ⟨hb,hhs⟩ := List.forall_mem_cons.mp h
    have hblank : ¬isBlank b := fun hblank => absurd (lt_of_isBlank hblank) (Nat.not_lt.mpr hb)
    have hnext : ∀ c ∈ (hs ++ bs).head?, ¬Kind.illegal.extendedBy c := fun _ _ => Bool.false_ne_true
    have hcons := tokens_of_spelled (Kind.spelled_illegal_of_high hb) hblank hnext n
    rw [List.nil_append] at hcons
    rw [List.cons_append, hcons, List.length_nil, ih hhs, List.mapIdx_cons, List.length_cons]
    have hadd (i : Nat) : n + 1 + 0 + i = n + (i + 1) := by omega
    simp only [hadd, List.cons_append, Nat.add_zero, Nat.add_comm hs.length]

end Lexer

theorem Lexer.offset_le_start_of_mem {n : Nat} {bs : List UInt8} {t : Token}
    (ht : t ∈ tokens ⟨n,bs⟩) : n ≤ t.span.start := by
  rw [tokens_eq_map_shift] at ht
  obtain ⟨u,_,rfl⟩ := List.mem_map.mp ht
  exact Nat.le_add_left n u.span.start

section
variable {c : Char} (h : 2 ≤ c.utf8Size)
include h

theorem Text.high_of_mem_utf8EncodeChar : ∀ b ∈ utf8EncodeChar c, 0x80 ≤ b.toNat := by
  apply le_toNat_of_mem_utf8EncodeChar
  by_contra hlt
  have hlen := String.length_utf8EncodeChar c
  rw [utf8EncodeChar_of_lt (Nat.not_le.mp hlt), List.length_singleton] at hlen
  omega

theorem Text.high_of_mem_head? {bs : List UInt8} :
    ∀ b ∈ (utf8EncodeChar c ++ bs).head?, 0x80 ≤ b.toNat := by
  have hhigh := high_of_mem_utf8EncodeChar h
  have hlen := String.length_utf8EncodeChar c
  intro b hb
  cases henc : utf8EncodeChar c with
  | nil =>
    rw [henc, List.length_nil] at hlen
    omega
  | cons d ds =>
    rw [henc] at hb hhigh
    cases hb
    exact hhigh b List.mem_cons_self

theorem Lexer.tokens_of_long_char (t u : String) :
    (ofText (t ++ String.singleton c ++ u)).tokens =
      (ofText t).tokens ++
        (utf8EncodeChar c).mapIdx (fun i b => ⟨.illegal,latin [b],
          ⟨(utf8 t).length + i,(utf8 t).length + i + 1⟩⟩) ++
        tokens ⟨(utf8 t).length + c.utf8Size,utf8 u⟩ := by
  have hbytes : utf8 (t ++ String.singleton c ++ u) = utf8 t ++ (utf8EncodeChar c ++ utf8 u) := by
    rw [utf8_append, utf8_append, utf8_singleton, List.append_assoc]
  have happ := tokens_append (ofText t) (utf8EncodeChar c ++ utf8 u)
    (fun k _ _ b hb => k.kind.not_extendedBy_high (high_of_mem_head? h b hb))
  have hhigh := tokens_of_high (high_of_mem_utf8EncodeChar h) (utf8 t).length (utf8 u)
  rw [String.length_utf8EncodeChar] at hhigh
  rw [List.append_assoc, ← hhigh, ofText, hbytes]
  simpa only [ofText, ofBytes, Nat.zero_add] using happ

theorem exists_run_of_char {source : String} {n : Nat}
    (hc : IsSlice source ⟨n,n + c.utf8Size⟩ (String.singleton c)) :
    ∃ before after, lex (utf8 source) =
        before ++
          (utf8EncodeChar c).mapIdx (fun i b => ⟨.illegal,latin [b],⟨n + i,n + i + 1⟩⟩) ++
          after ∧
      (∀ t ∈ before, t.span.stop ≤ n) ∧ ∀ t ∈ after, n + c.utf8Size ≤ t.span.start := by
  obtain ⟨t,u,rfl,hs⟩ := hc
  obtain rfl : n = (utf8 t).length := congrArg Span.start hs
  refine ⟨(Lexer.ofText t).tokens,Lexer.tokens ⟨(utf8 t).length + c.utf8Size,utf8 u⟩ ++
      [.eof (utf8 (t ++ String.singleton c ++ u)).length],?_,?_,?_⟩
  · have htokens := Lexer.tokens_of_long_char h t u
    rw [Lexer.ofText] at htokens
    rw [lex_eq_append_eof, htokens, List.append_assoc]
  · intro k hk
    exact (Lexer.lexed_of_mem hk).inside
  · intro k hk
    rcases List.mem_append.mp hk with hk | hk
    · exact Lexer.offset_le_start_of_mem hk
    · rw [List.mem_singleton.mp hk]
      simp only [utf8_append, utf8_singleton, Token.eof, List.length_append,
        String.length_utf8EncodeChar]
      omega

end

theorem Token.Lexed.exists_split {bytes : List UInt8} {t : Token} (h : t.Lexed bytes) :
    ∃ as bs, bytes = as ++ t.span.slice bytes ++ bs ∧
      t.span = ⟨as.length,as.length + (t.span.slice bytes).length⟩ := by
  obtain ⟨hne,hin,_⟩ := h
  have hadd : t.span.stop = t.span.start + (t.span.stop - t.span.start) := by omega
  have hstart : (bytes.take t.span.start).length = t.span.start :=
    List.length_take_of_le (by omega)
  have hlen : (t.span.slice bytes).length = t.span.stop - t.span.start := by
    rw [Span.slice, List.length_take, List.length_drop]
    omega
  refine ⟨bytes.take t.span.start,bytes.drop t.span.stop,?_,?_⟩
  · rw [Span.slice, List.append_assoc, hadd, ← List.drop_drop, Nat.add_sub_cancel_left,
      List.take_append_drop, List.take_append_drop]
  · rw [hstart, hlen, ← hadd]

namespace Token.Lexed

variable {source : String} {t : Token} (h : t.Lexed (utf8 source))
include h

theorem isSlice_of_ascii (ha : ∀ b ∈ t.span.slice (utf8 source), b.toNat < 0x80) :
    IsSlice source t.span t.literal := by
  obtain ⟨as,bs,hsplit,hspan⟩ := h.exists_split
  rw [hspan, h.literal]
  exact exists_slice_of_ascii h.spelled.ne_nil ha hsplit

theorem isByteOf_of_high {b : UInt8} (hb : t.span.slice (utf8 source) = [b])
    (hhigh : 0x80 ≤ b.toNat) : ∃ c i, IsByteOf source c i t.span := by
  obtain ⟨as,bs,hsplit,hspan⟩ := h.exists_split
  rw [hb] at hspan
  rw [hb, List.append_assoc] at hsplit
  rw [hspan]
  exact exists_byteOf_of_high hhigh hsplit

theorem isSlice_or_isByteOf :
    IsSlice source t.span t.literal ∨ t.kind = .illegal ∧ ∃ c i, IsByteOf source c i t.span := by
  rcases eq_or_ne t.kind .illegal with hk | hk
  · have hspelled := h.spelled
    rw [hk] at hspelled
    obtain ⟨b,hb,_⟩ := hspelled
    rcases Nat.lt_or_ge b.toNat 0x80 with hlt | hge
    · refine .inl (h.isSlice_of_ascii ?_)
      rw [hb]
      exact List.forall_mem_singleton.mpr hlt
    · exact .inr ⟨hk,h.isByteOf_of_high hb hge⟩
  · exact .inl (h.isSlice_of_ascii (h.spelled.lt_of_mem hk))

end Token.Lexed

namespace Expectation

theorem next_of_illegal {t : Token} (h : t.kind = .illegal) (e : Expectation) :
    e.next t = keyword ∨ ∃ l n, e.next t = stop l n := by
  cases e with
  | start | keyword | name l | assign l n => exact .inl (by simp [next, afresh, h])
  | stop l n => exact .inr ⟨l,n,by simp [next, h]⟩

theorem read_fault?_of_illegal {ts : List Token} (h : ∀ t ∈ ts, t.kind = .illegal)
    {e : Expectation} (he : e = keyword ∨ ∃ l n, e = stop l n) : e.read fault? ts = [] := by
  induction ts generalizing e with
  | nil => rfl
  | cons t ts ih =>
    obtain ⟨ht,hts⟩ := List.forall_mem_cons.mp h
    have hnone : e.fault? t = none := by
      rcases he with rfl | ⟨l,n,rfl⟩
      · rfl
      · simp [fault?, ht]
    rw [read, hnone, ih hts (next_of_illegal ht e)]
    rfl

theorem span_of_illegal_run {ts : List Token} (h : ∀ t ∈ ts, t.kind = .illegal)
    {e : Expectation} {f : Fault} (hf : f ∈ e.read fault? ts) :
    f.span ∈ (ts.map Token.span).head? := by
  cases ts with
  | nil => cases hf
  | cons t ts =>
    obtain ⟨ht,hts⟩ := List.forall_mem_cons.mp h
    rw [read, read_fault?_of_illegal hts (next_of_illegal ht e), List.append_nil] at hf
    rw [(place_of_fault? (Option.mem_toList.mp hf)).2]
    rfl

theorem exists_span_of_mem_read {ts : List Token} {e : Expectation} {f : Fault}
    (hf : f ∈ e.read fault? ts) : ∃ t ∈ ts, f.span = t.span := by
  obtain ⟨t,ht,d,hd⟩ := exists_of_mem_read fault? hf
  exact ⟨t,ht,(place_of_fault? hd).2⟩

end Expectation

theorem isSlice_or_isByteOf_of_mem_lex {source : String} {t : Token}
    (h : t ∈ lex (utf8 source)) :
    IsSlice source t.span t.literal ∨ t.kind = .illegal ∧ ∃ c i, IsByteOf source c i t.span := by
  rw [lex_eq_append_eof] at h
  rcases List.mem_append.mp h with h | h
  · exact (Lexer.lexed_of_mem h).isSlice_or_isByteOf
  · rw [List.mem_singleton.mp h]
    refine .inl ⟨source,"",?_,rfl⟩
    rw [Token.eof, String.append_empty, String.append_empty]

namespace ParseResult

variable {source : String}

-- A fault is read from what stands before the character, from its bytes or from what follows.
theorem fault_at_first_byte {c : Char} {i : Nat} {f : Fault}
    (hf : f ∈ (parse source).faults) (h : IsByteOf source c i f.span) : i = 0 := by
  obtain ⟨n,hc,hlong,hi,hspan⟩ := h
  obtain ⟨before,after,hlex,hbefore,hafter⟩ := exists_run_of_char hlong hc
  rw [parse, ofBytes_eq_read, hlex] at hf
  simp only [Expectation.read_append, List.mem_append] at hf
  have hstart : f.span.start = n + i := congrArg Span.start hspan
  have hstop : f.span.stop = n + i + 1 := congrArg Span.stop hspan
  rcases hf with (hf | hf) | hf
  · obtain ⟨t,ht,hs⟩ := Expectation.exists_span_of_mem_read hf
    have hle := hbefore t ht
    rw [← hs] at hle
    omega
  · have hillegal : ∀ t ∈ (utf8EncodeChar c).mapIdx
        (fun i b => (⟨.illegal,latin [b],⟨n + i,n + i + 1⟩⟩ : Token)), t.kind = .illegal := by
      intro t ht
      obtain ⟨j,_,rfl⟩ := List.mem_mapIdx.mp ht
      rfl
    have hfirst := Expectation.span_of_illegal_run hillegal hf
    cases henc : utf8EncodeChar c with
    | nil =>
      rw [henc] at hfirst
      cases hfirst
    | cons b bs =>
      rw [henc, List.mapIdx_cons] at hfirst
      have hspan0 := congrArg Span.start (Option.some.inj hfirst)
      simp only at hspan0
      omega
  · obtain ⟨t,ht,hs⟩ := Expectation.exists_span_of_mem_read hf
    have hle := hafter t ht
    rw [← hs] at hle
    omega

theorem fault_boundaries {f : Fault} (hf : f ∈ (parse source).faults) :
    IsBoundary source f.span.start ∧
      (IsBoundary source f.span.stop ∨ f.found = .illegal ∧ ∃ c, IsByteOf source c 0 f.span) := by
  obtain ⟨t,ht,hk,hs⟩ := exists_token_of_mem_faults hf
  rcases isSlice_or_isByteOf_of_mem_lex ht with hslice | ⟨hillegal,c,i,hbyte⟩
  · rw [hs] at hslice
    exact ⟨hslice.isBoundary.1,.inl hslice.isBoundary.2⟩
  · rw [hs] at hbyte
    obtain rfl := fault_at_first_byte hf hbyte
    have hstart : IsBoundary source f.span.start := by
      obtain ⟨n,hc,_,_,hspan⟩ := hbyte
      rw [hspan]
      exact hc.isBoundary.1
    exact ⟨hstart,.inr ⟨hk.symm.trans hillegal,c,hbyte⟩⟩

theorem statement_boundaries {x : Statement} (hx : x ∈ (parse source).program.statements) :
    ∀ s ∈ x.spans, IsBoundary source s.start ∧ IsBoundary source s.stop := by
  obtain ⟨us,b,vs,hlex,rfl⟩ := exists_binding hx
  have hslice {t : Token} (ht : t ∈ b.tokens) (hk : t.kind ≠ .illegal) :
      IsBoundary source t.span.start ∧ IsBoundary source t.span.stop := by
    have hmem : t ∈ lex (utf8 source) := by
      rw [hlex]
      exact List.mem_append_left vs (List.mem_append_right us ht)
    rcases isSlice_or_isByteOf_of_mem_lex hmem with h | ⟨h,_⟩
    · exact h.isBoundary
    · exact absurd h hk
  have hkeyword := @hslice b.keyword b.keyword_mem (by simp [b.keyword_kind])
  have hname := @hslice b.name b.name_mem (by simp [b.name_kind])
  have hstop := @hslice b.stop b.stop_mem (by simp [b.stop_kind])
  intro s hs
  simp only [Statement.spans, Binding.statement, Option.map_none, Option.getD_none, List.mem_cons,
    List.not_mem_nil, or_false] at hs
  rcases hs with rfl | rfl | rfl
  · exact ⟨hkeyword.1,hstop.2⟩
  · exact hkeyword
  · exact hname

theorem spans_at_boundaries (source : String) :
    (∀ c n, IsSlice source ⟨n,n + c.utf8Size⟩ (String.singleton c) → 2 ≤ c.utf8Size →
      ∃ before after, lex (utf8 source) =
          before ++
            (utf8EncodeChar c).mapIdx (fun i b => ⟨.illegal,latin [b],⟨n + i,n + i + 1⟩⟩) ++
            after ∧
        (∀ t ∈ before, t.span.stop ≤ n) ∧ ∀ t ∈ after, n + c.utf8Size ≤ t.span.start) ∧
    (∀ t ∈ lex (utf8 source), (¬∃ c i, IsByteOf source c i t.span) →
      IsSlice source t.span t.literal ∧
        IsBoundary source t.span.start ∧ IsBoundary source t.span.stop) ∧
    (∀ x ∈ (parse source).program.statements, ∀ s ∈ x.spans,
      IsBoundary source s.start ∧ IsBoundary source s.stop) ∧
    ∀ f ∈ (parse source).faults, IsBoundary source f.span.start ∧
      (IsBoundary source f.span.stop ∨
        f.found = .illegal ∧ ∃ c, IsByteOf source c 0 f.span) := by
  refine ⟨fun c n hc hlong => exists_run_of_char hlong hc,?_,fun _ => statement_boundaries,
    fun _ => fault_boundaries⟩
  intro t ht hwhole
  rcases isSlice_or_isByteOf_of_mem_lex ht with h | ⟨_,h⟩
  · exact ⟨h,h.isBoundary⟩
  · exact absurd h hwhole

theorem spans_at_boundaries_accented :
    (IsSlice "let x = é; é" ⟨8,8 + 'é'.utf8Size⟩ (String.singleton 'é') ∧ 2 ≤ 'é'.utf8Size ∧
      ∃ before after, lex (utf8 "let x = é; é") =
          before ++
            (utf8EncodeChar 'é').mapIdx (fun i b => ⟨.illegal,latin [b],⟨8 + i,8 + i + 1⟩⟩) ++
            after ∧
        (∀ t ∈ before, t.span.stop ≤ 8) ∧ ∀ t ∈ after, 8 + 'é'.utf8Size ≤ t.span.start) ∧
    (⟨.keyword .letKey,"let",⟨0,3⟩⟩ ∈ lex (utf8 "let x = é; é") ∧
      (¬∃ c i, IsByteOf "let x = é; é" c i ⟨0,3⟩) ∧ IsSlice "let x = é; é" ⟨0,3⟩ "let" ∧
        IsBoundary "let x = é; é" 0 ∧ IsBoundary "let x = é; é" 3) ∧
    (Fault.unsupportedStatement .illegal ⟨12,13⟩ ∈ (parse "let x = é; é").faults ∧
      IsBoundary "let x = é; é" 12 ∧
        (IsBoundary "let x = é; é" 13 ∨
          Kind.illegal = .illegal ∧ ∃ c, IsByteOf "let x = é; é" c 0 ⟨12,13⟩)) := by
  have hslice : IsSlice "let x = é; é" ⟨8,8 + 'é'.utf8Size⟩ (String.singleton 'é') := by
    refine ⟨"let x = ","; é",?_,?_⟩
    · decide +kernel
    · decide +kernel
  have hlong : 2 ≤ 'é'.utf8Size := by decide
  have htoken : ⟨.keyword .letKey,"let",⟨0,3⟩⟩ ∈ lex (utf8 "let x = é; é") := by decide +kernel
  have hwhole : ¬∃ c i, IsByteOf "let x = é; é" c i ⟨0,3⟩ := by
    rintro ⟨c,i,n,_,_,_,hspan⟩
    have hstart : 0 = n + i := congrArg Span.start hspan
    have hstop : 3 = n + i + 1 := congrArg Span.stop hspan
    omega
  have hfault : Fault.unsupportedStatement .illegal ⟨12,13⟩ ∈ (parse "let x = é; é").faults := by
    decide +kernel
  obtain ⟨hchar,htokens,_,hfaults⟩ := spans_at_boundaries "let x = é; é"
  exact ⟨⟨hslice,hlong,hchar 'é' 8 hslice hlong⟩,⟨htoken,hwhole,htokens _ htoken hwhole⟩,
    hfault,hfaults _ hfault⟩

end ParseResult

end LetLang
