import Mathlib.Data.List.Forall2
import LetLang.Proofs.Expectation

namespace LetLang

def Token.Paired (ts us : List Token) (k : Kind) (t u : Token) : Prop :=
  t.kind = k ∧ u.kind = k ∧ ∃ i : Nat, ts[i]? = some t ∧ us[i]? = some u

theorem Token.paired_of_kinds_eq {ts us : List Token}
    (h : ts.map Token.kind = us.map Token.kind) :
    List.Forall₂ (fun t u => ∃ k, Paired ts us k t u) ts us := by
  have hlen : ts.length = us.length := by simpa using congrArg List.length h
  refine List.forall₂_iff_get.mpr ⟨hlen,?_⟩
  intro i ht hu
  have hkind : us[i].kind = ts[i].kind := by
    have hget := congrArg (fun ks => ks[i]?) h
    rw [List.getElem?_map, List.getElem?_map, List.getElem?_eq_getElem ht,
      List.getElem?_eq_getElem hu] at hget
    exact (Option.some.inj hget).symm
  exact ⟨ts[i].kind,rfl,hkind,i,List.getElem?_eq_getElem ht,List.getElem?_eq_getElem hu⟩

section
variable (ts us : List Token)

inductive Statement.Alike : Statement → Statement → Prop
  | letStatement {l l' n n' e e' : Token} (hl : Token.Paired ts us (.keyword .letKey) l l')
      (hn : Token.Paired ts us .ident n n')
      (he : Token.Paired ts us (.punctuation .semicolon) e e') :
      Alike (.letStatement ⟨l,.ofToken n,none,⟨l.span.start,e.span.stop⟩⟩)
        (.letStatement ⟨l',.ofToken n',none,⟨l'.span.start,e'.span.stop⟩⟩)

inductive Fault.Alike : Fault → Fault → Prop
  | unexpectedToken (expected : Kind) {found : Kind} {t u : Token}
      (h : Token.Paired ts us found t u) :
      Alike (.unexpectedToken expected found t.span) (.unexpectedToken expected found u.span)
  | unsupportedStatement {found : Kind} {t u : Token} (h : Token.Paired ts us found t u) :
      Alike (.unsupportedStatement found t.span) (.unsupportedStatement found u.span)

inductive Expectation.Alike : Expectation → Expectation → Prop
  | start : Alike start start
  | keyword : Alike keyword keyword
  | name {l l' : Token} (hl : Token.Paired ts us (.keyword .letKey) l l') : Alike (name l) (name l')
  | assign {l l' n n' : Token} (hl : Token.Paired ts us (.keyword .letKey) l l')
      (hn : Token.Paired ts us .ident n n') : Alike (assign l n) (assign l' n')
  | stop {l l' n n' : Token} (hl : Token.Paired ts us (.keyword .letKey) l l')
      (hn : Token.Paired ts us .ident n n') : Alike (stop l n) (stop l' n')

end

section
variable {ts us : List Token} {k c : Kind} {t u : Token} {e d : Expectation}

theorem Fault.Alike.unexpectedAt (h : Token.Paired ts us k t u) :
    Fault.Alike ts us (.unexpectedAt c t) (.unexpectedAt c u) := by
  rw [Fault.unexpectedAt, Fault.unexpectedAt, h.1, h.2.1]
  exact .unexpectedToken c h

theorem Fault.Alike.unsupportedAt (h : Token.Paired ts us k t u) :
    Fault.Alike ts us (.unsupportedAt t) (.unsupportedAt u) := by
  rw [Fault.unsupportedAt, Fault.unsupportedAt, h.1, h.2.1]
  exact .unsupportedStatement h

namespace Expectation

theorem alike_afresh (h : Token.Paired ts us k t u) :
    Expectation.Alike ts us (afresh t) (afresh u) := by
  rw [afresh, afresh, h.1, h.2.1]
  split
  · exact .start
  split
  · rename_i hl
    exact .name (hl ▸ h)
  · exact .keyword

namespace Alike

variable (he : Expectation.Alike ts us e d) (h : Token.Paired ts us k t u)
include he h

theorem next : Expectation.Alike ts us (e.next t) (d.next u) := by
  cases he with
  | start => exact alike_afresh h
  | keyword => exact alike_afresh h
  | name hl =>
    rw [Expectation.next, Expectation.next, h.1, h.2.1]
    split
    · rename_i hn
      exact .assign hl (hn ▸ h)
    · exact alike_afresh h
  | assign hl hn =>
    rw [Expectation.next, Expectation.next, h.1, h.2.1]
    split
    · exact .stop hl hn
    · exact alike_afresh h
  | stop hl hn =>
    rw [Expectation.next, Expectation.next, h.1, h.2.1]
    split
    · exact .start
    · exact .stop hl hn

theorem statement? : Option.Rel (Statement.Alike ts us) (e.statement? t) (d.statement? u) := by
  cases he with
  | start | keyword | name hl | assign hl hn => exact .none
  | stop hl hn =>
    rw [Expectation.statement?, Expectation.statement?, h.1, h.2.1]
    split
    · rename_i hs
      exact .some (.letStatement hl hn (hs ▸ h))
    · exact .none

theorem fault? : Option.Rel (Fault.Alike ts us) (e.fault? t) (d.fault? u) := by
  cases he with
  | start =>
    rw [Expectation.fault?, Expectation.fault?, h.1, h.2.1]
    split
    · exact .none
    · exact .some (.unsupportedAt h)
  | keyword => exact .none
  | name hl | assign hl hn =>
    rw [Expectation.fault?, Expectation.fault?, h.1, h.2.1]
    split
    · exact .none
    · exact .some (.unexpectedAt h)
  | stop hl hn =>
    rw [Expectation.fault?, Expectation.fault?, h.1, h.2.1]
    split
    · exact .some (.unexpectedAt h)
    · exact .none

end Alike

theorem forall₂_toList {α : Type} {R : α → α → Prop} {x y : Option α} (h : Option.Rel R x y) :
    List.Forall₂ R x.toList y.toList := by
  cases h with
  | some hr => exact .cons hr .nil
  | none => exact .nil

-- By induction on the two streams in step, from any two expectations that are alike.
theorem forall₂_read {α : Type} {R : α → α → Prop} {out : Token → Expectation → Option α}
    (hout : ∀ k t u e d, Token.Paired ts us k t u → Expectation.Alike ts us e d →
      Option.Rel R (out t e) (out u d))
    {vs ws : List Token} (h : List.Forall₂ (fun t u => ∃ k, Token.Paired ts us k t u) vs ws)
    (he : Expectation.Alike ts us e d) : List.Forall₂ R (e.read out vs) (d.read out ws) := by
  induction h generalizing e d with
  | nil => exact .nil
  | cons hpair hrest ih =>
    obtain ⟨k,hk⟩ := hpair
    rw [read, read]
    exact List.rel_append (forall₂_toList (hout k _ _ e d hk he)) (ih (he.next hk))

end Expectation

end

namespace ParseResult

theorem alike_of_kinds_eq {as bs : List UInt8}
    (h : (lex as).map Token.kind = (lex bs).map Token.kind) :
    List.Forall₂ (Statement.Alike (lex as) (lex bs)) (ofBytes as).program.statements
        (ofBytes bs).program.statements ∧
      List.Forall₂ (Fault.Alike (lex as) (lex bs)) (ofBytes as).faults (ofBytes bs).faults := by
  have hpaired := Token.paired_of_kinds_eq h
  rw [ofBytes_eq_read, ofBytes_eq_read]
  constructor
  · exact Expectation.forall₂_read (fun _ _ _ _ _ hk he => he.statement? hk) hpaired .start
  · exact Expectation.forall₂_read (fun _ _ _ _ _ hk he => he.fault? hk) hpaired .start

theorem alike_of_kinds_eq_respelled :
    (lex (Text.utf8 "let a = 1; @ let 7")).map Token.kind =
        (lex (Text.utf8 "\tlet  bcd=22;#let\n89 ")).map Token.kind ∧
      (ofBytes (Text.utf8 "let a = 1; @ let 7") =
          ⟨⟨[.letStatement ⟨⟨.keyword .letKey,"let",⟨0,3⟩⟩,⟨⟨.ident,"a",⟨4,5⟩⟩,"a"⟩,none,
            ⟨0,10⟩⟩]⟩,
            [.unsupportedStatement .illegal ⟨11,12⟩, .unexpectedToken .ident .int ⟨17,18⟩]⟩ ∧
        ofBytes (Text.utf8 "\tlet  bcd=22;#let\n89 ") =
          ⟨⟨[.letStatement ⟨⟨.keyword .letKey,"let",⟨1,4⟩⟩,⟨⟨.ident,"bcd",⟨6,9⟩⟩,"bcd"⟩,none,
            ⟨1,13⟩⟩]⟩,
            [.unsupportedStatement .illegal ⟨13,14⟩, .unexpectedToken .ident .int ⟨18,20⟩]⟩) ∧
      List.Forall₂
          (Statement.Alike (lex (Text.utf8 "let a = 1; @ let 7"))
            (lex (Text.utf8 "\tlet  bcd=22;#let\n89 ")))
          [.letStatement ⟨⟨.keyword .letKey,"let",⟨0,3⟩⟩,⟨⟨.ident,"a",⟨4,5⟩⟩,"a"⟩,none,
            ⟨0,10⟩⟩]
          [.letStatement ⟨⟨.keyword .letKey,"let",⟨1,4⟩⟩,⟨⟨.ident,"bcd",⟨6,9⟩⟩,"bcd"⟩,none,
            ⟨1,13⟩⟩] ∧
        List.Forall₂
          (Fault.Alike (lex (Text.utf8 "let a = 1; @ let 7"))
            (lex (Text.utf8 "\tlet  bcd=22;#let\n89 ")))
          [.unsupportedStatement .illegal ⟨11,12⟩, .unexpectedToken .ident .int ⟨17,18⟩]
          [.unsupportedStatement .illegal ⟨13,14⟩, .unexpectedToken .ident .int ⟨18,20⟩] := by
  have h : (lex (Text.utf8 "let a = 1; @ let 7")).map Token.kind =
      (lex (Text.utf8 "\tlet  bcd=22;#let\n89 ")).map Token.kind := by decide +kernel
  have hfirst : ofBytes (Text.utf8 "let a = 1; @ let 7") =
      ⟨⟨[.letStatement ⟨⟨.keyword .letKey,"let",⟨0,3⟩⟩,⟨⟨.ident,"a",⟨4,5⟩⟩,"a"⟩,none,
            ⟨0,10⟩⟩]⟩,
        [.unsupportedStatement .illegal ⟨11,12⟩, .unexpectedToken .ident .int ⟨17,18⟩]⟩ := by
    decide +kernel
  have hsecond : ofBytes (Text.utf8 "\tlet  bcd=22;#let\n89 ") =
      ⟨⟨[.letStatement ⟨⟨.keyword .letKey,"let",⟨1,4⟩⟩,⟨⟨.ident,"bcd",⟨6,9⟩⟩,"bcd"⟩,none,
            ⟨1,13⟩⟩]⟩,
        [.unsupportedStatement .illegal ⟨13,14⟩, .unexpectedToken .ident .int ⟨18,20⟩]⟩ := by
    decide +kernel
  have halike := alike_of_kinds_eq h
  rw [hfirst, hsecond] at halike
  exact ⟨h,⟨hfirst,hsecond⟩,halike⟩

end ParseResult

end LetLang
