namespace PluggableHost.Text

/-!
# Similarity of words

How alike two words are, after Jaro: characters match when they are equal and
not further apart than about half a word, each character matches at most one
other, and matches in another order count less.
-/

/-- A character, and whether it has been matched. -/
abbrev MatchedChar := Char × Bool

/--
Match a character with the first one that is equal, free and in the window. The
window and the characters begin at `position`.
-/
def matchChar (character : Char) (first last : Nat) (position : Nat) :
    List MatchedChar → Option (List MatchedChar)
  | [] => none
  | (other, taken) :: rest =>
      if position ≥ last then none
      else if first ≤ position && other = character && !taken then
        some ((other, true) :: rest)
      else
        (matchChar character first last (position + 1) rest).map ((other, taken) :: ·)

/-- Match the characters of a word from `position` on, and collect those that find a match. -/
def matchWord (reach : Nat) (position : Nat) (others : List MatchedChar) :
    List Char → List Char × List MatchedChar
  | [] => ([], others)
  | character :: rest =>
      match matchChar character (position - reach) (position + reach + 1) 0 others with
      | some others =>
          let (found, others) := matchWord reach (position + 1) others rest
          (character :: found, others)
      | none => matchWord reach (position + 1) others rest

/-- The similarity of two words, from zero to one. -/
def similarity (first second : String) : Float :=
  let (left, right) := (first.toList, second.toList)
  let reach := max left.length right.length / 2 - 1
  let (found, marked) := matchWord reach 0 (right.map fun character => (character, false)) left
  let partners := (marked.filter Prod.snd).map Prod.fst
  let swapped := ((found.zip partners).filter fun pair => pair.1 != pair.2).length / 2
  let count := found.length.toFloat
  if found.isEmpty then (if left.isEmpty && right.isEmpty then 1 else 0)
  else
    (count / left.length.toFloat + count / right.length.toFloat +
      (found.length - swapped).toFloat / count) / 3

/-- Of several words the one that is most like a word, if it is like enough. -/
def mostSimilar? (word : String) (candidates : List String) : Option String :=
  let better (best : Option (String × Float)) (candidate : String) : Option (String × Float) :=
    let value := similarity word candidate
    match best with
    | some (_, other) => if value ≥ other then some (candidate, value) else best
    | none => if value > 0.7 then some (candidate, value) else none
  (candidates.foldl better none).map Prod.fst

end PluggableHost.Text
