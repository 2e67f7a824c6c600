import LetLang.Text.Ranges
import LetLang.Text.Weightless
import LetLang.Text.Wide

namespace LetLang.Text

def charColumns (c : Char) : Nat :=
  if inRanges weightless c.toNat then 0
  else if inRanges wide c.toNat then 2
  else if c = '\u17d8' then 3
  else 1

def tabWidth : Nat := 4

structure Place where
  column : Nat
  inSequence : Bool
  deriving DecidableEq, Repr

namespace Place

def start : Place :=
  ⟨0,false⟩

def next (p : Place) (c : Char) : Place :=
  if p.inSequence then ⟨p.column,c != 'm'⟩
  else if c = '\x1b' then ⟨p.column,true⟩
  else if c = '\t' then ⟨(p.column / tabWidth + 1) * tabWidth,false⟩
  else ⟨p.column + charColumns c,false⟩

def spread (p : Place) (c : Char) : List Char :=
  if c = '\t' then List.replicate ((p.next c).column - p.column) ' ' else [c]

end Place

def expandTabsOnto (acc : List Char) (p : Place) : List Char → List Char
  | [] => acc.reverse
  | c :: cs => expandTabsOnto ((p.spread c).reverse ++ acc) (p.next c) cs

def expandTabs (cs : List Char) : List Char :=
  expandTabsOnto [] .start cs

end LetLang.Text
