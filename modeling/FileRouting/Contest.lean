/-!
# Contests

Items arrive one after the other, and each asks for a key.  The first item that
asks for a key wins it; all later ones with that key lose.  A contest arises
for each key that has a loser, when the first loser arrives.
-/

namespace FileRouting

/-- The items that asked for one key, in order of arrival. -/
structure Contest (κ α : Type) where
  key : κ
  entrants : List α

namespace Contest

variable {κ α : Type} [DecidableEq κ]

/-- The first item of each key, in order of arrival. -/
def winners (key : α → κ) : List α → List α
  | [] => []
  | item :: later =>
      item :: (winners key later).filter fun other => key other ≠ key item

/-- The items that arrive when their key is already taken. -/
def losers (key : α → κ) (taken : List κ) : List α → List α
  | [] => []
  | item :: later =>
      if key item ∈ taken then item :: losers key taken later
      else losers key (key item :: taken) later

/-- The contests among some items, in the order in which they arise. -/
def all (key : α → κ) (items : List α) : List (Contest κ α) :=
  (winners key (losers key [] items)).map fun loser =>
    { key := key loser
      entrants := items.filter fun item => key item = key loser }

end Contest

end FileRouting
