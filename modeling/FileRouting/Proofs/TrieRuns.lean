import FileRouting.Proofs.TrieContents
import Mathlib.Data.Char
import Mathlib.Data.Finset.Sort
import Mathlib.Data.List.Lex

/-!
# Runs of a trie

A trie forgets a claimed text by unmarking the branch where it ended, and the
branch itself stays.  None of this can be noticed from outside: over any run of
requests a trie answers as a plain set of texts does, which lists what it is
asked for in ascending order and has nothing else to remember.

The answers come in order without being sorted, because the labels of branches
ascend and a text that ends at a branch is listed before those that go on.
-/

namespace FileRouting

inductive StoreRequest where
  | add (text : Text)
  | claim (start : Text) (test : Text → Bool)

inductive StoreAnswer where
  | added
  | refused (error : RouteError)
  | claimed (texts : List Text)
  deriving DecidableEq, Repr

/-- The answers to some requests, each of which leaves the state in which the
next one is served. -/
def StoreRequest.answers {σ : Type}
    (serve : σ → StoreRequest → StoreAnswer × σ) :
    σ → List StoreRequest → List StoreAnswer
  | _, [] => []
  | state, request :: later =>
      (serve state request).1 :: answers serve (serve state request).2 later

/-- How a trie serves a request.  A refused text leaves the trie as it is. -/
def Trie.serve (trie : Trie) : StoreRequest → StoreAnswer × Trie
  | .add text =>
      match trie.add? text with
      | .error error => (.refused error, trie)
      | .ok larger => (.added, larger)
  | .claim start test =>
      (.claimed (trie.claim start test).1, (trie.claim start test).2)

/-- How a set of texts serves a request: it lists what a claim asks for in
ascending order and keeps the rest. -/
def TextSet.serve (held : Finset Text) :
    StoreRequest → StoreAnswer × Finset Text
  | .add text =>
      if text = [] then (.refused .emptyRouteId, held)
      else (.added, insert text held)
  | .claim start test =>
      let claimed := held.filter fun text => start <+: text ∧ test text = true
      (.claimed (claimed.sort (· ≤ ·)), held \ claimed)

namespace Trie

section Order

variable {trie : Trie}

theorem nil_lt_of_mem_toList {text : Text} (member : text ∈ trie.toList) :
    [] < text := by
  cases text with
  | nil => exact absurd member (nil_notMem_toList trie)
  | cons c rest => exact List.nil_lt_cons c rest

theorem lt_of_mem_siblings {label : Char} {stored : Bool}
    {children siblings : Trie}
    (ordered : (node label stored children siblings).Ordered) {text : Text}
    (member : text ∈ siblings.toList) (rest : Text) : label :: rest < text := by
  cases text with
  | nil => exact absurd member (nil_notMem_toList siblings)
  | cons c further =>
      apply List.cons_lt_cons_iff.mpr
      left
      exact ordered.1 c (label_of_mem_toList member)

theorem begins_with_label {label : Char} {stored : Bool} {children : Trie}
    {text : Text}
    (member : text ∈ (if stored then [[label]] else []) ++
      children.toList.map (label :: ·)) :
    ∃ rest, text = label :: rest := by
  rcases List.mem_append.mp member with here | further
  · cases stored with
    | false => cases here
    | true => exact ⟨[], List.mem_singleton.mp here⟩
  · obtain ⟨rest, _, rfl⟩ := List.mem_map.mp further
    exact ⟨rest, rfl⟩

theorem branch_ascending {children : Trie}
    (ascending : children.toList.Pairwise (· < ·)) (label : Char)
    (stored : Bool) :
    ((if stored then [[label]] else []) ++
      children.toList.map (label :: ·)).Pairwise (· < ·) := by
  have longer : (children.toList.map (label :: ·)).Pairwise (· < ·) := by
    apply List.pairwise_map.mpr
    apply ascending.imp
    intro earlier later less
    exact List.cons_lt_cons_iff.mpr (.inr ⟨rfl, less⟩)
  cases stored with
  | false => exact longer
  | true =>
      apply List.pairwise_cons.mpr
      refine ⟨?_, longer⟩
      intro text member
      obtain ⟨rest, inner, rfl⟩ := List.mem_map.mp member
      apply List.cons_lt_cons_iff.mpr
      right
      exact ⟨rfl, nil_lt_of_mem_toList inner⟩

theorem toList_ascending (ordered : trie.Ordered) :
    trie.toList.Pairwise (· < ·) := by
  induction trie with
  | nil => exact List.Pairwise.nil
  | node label stored children siblings childInduction siblingInduction =>
      apply List.pairwise_append.mpr
      refine ⟨branch_ascending (childInduction ordered.2.1) label stored,
        siblingInduction ordered.2.2, ?_⟩
      intro text member other otherMember
      obtain ⟨rest, rfl⟩ := begins_with_label member
      exact lt_of_mem_siblings ordered otherMember rest

theorem suffixes_ascending (ordered : trie.Ordered) (start : Text) :
    (trie.suffixes start).Pairwise (· < ·) := by
  induction trie generalizing start with
  | nil => cases start <;> exact List.Pairwise.nil
  | node label stored children siblings childInduction siblingInduction =>
      cases start with
      | nil => exact toList_ascending ordered
      | cons c rest =>
          have inChildren := childInduction ordered.2.1 rest
          by_cases same : c = label
          · rw [suffixes, if_pos same]
            cases rest with
            | cons d further => simpa using inChildren
            | nil =>
                -- The text that ends here is the one with nothing left.
                cases stored with
                | false => exact inChildren
                | true =>
                    apply List.pairwise_cons.mpr
                    refine ⟨?_, inChildren⟩
                    intro text member
                    apply nil_lt_of_mem_toList
                    exact (mem_suffixes ordered.2.1).mp member
          · rw [suffixes, if_neg same]
            exact siblingInduction ordered.2.2 (c :: rest)

theorem claimed_ascending (ordered : trie.Ordered) (start : Text)
    (test : Text → Bool) :
    (trie.claim start test).1.Pairwise (· < ·) := by
  apply List.pairwise_map.mpr
  apply ((suffixes_ascending ordered start).filter _).imp
  intro earlier later less
  exact List.append_left_lt less

end Order

structure Represents (trie : Trie) (held : Finset Text) : Prop where
  ordered : trie.Ordered
  stores : ∀ text, text ∈ trie.toList ↔ text ∈ held

end Trie

theorem eq_sort_of_ascending {texts : List Text} {held : Finset Text}
    (ascending : texts.Pairwise (· < ·))
    (members : ∀ text, text ∈ texts ↔ text ∈ held) :
    texts = held.sort (· ≤ ·) := by
  have same : texts.toFinset = held := by
    ext text
    rw [List.mem_toFinset, members]
  have distinct : texts.Nodup := ascending.imp ne_of_lt
  have sorted : texts.Pairwise (· ≤ ·) := ascending.imp le_of_lt
  rw [← same]
  exact ((List.toFinset_sort _ distinct).mpr sorted).symm

namespace Trie.Represents

variable {trie : Trie} {held : Finset Text}

theorem empty : Trie.nil.Represents ∅ where
  ordered := trivial
  stores := by simp [toList]

theorem insert (represents : trie.Represents held) {text : Text}
    (nonempty : text ≠ []) :
    (trie.insert text).Represents (Insert.insert text held) where
  ordered := insert_ordered represents.ordered text
  stores := by
    intro other
    rw [mem_toList_insert, represents.stores, Finset.mem_insert]
    simp [nonempty]

theorem claimed_eq_sort (represents : trie.Represents held) (start : Text)
    (test : Text → Bool) :
    (trie.claim start test).1 =
      (held.filter fun text => start <+: text ∧ test text = true).sort
        (· ≤ ·) := by
  apply eq_sort_of_ascending (claimed_ascending represents.ordered start test)
  intro text
  rw [mem_claimed represents.ordered, represents.stores, Finset.mem_filter]

theorem claim (represents : trie.Represents held) (start : Text)
    (test : Text → Bool) :
    (trie.claim start test).2.Represents
      (held \ held.filter fun text => start <+: text ∧ test text = true) where
  ordered := claim_ordered represents.ordered
  stores := by
    intro text
    rw [mem_left_by_claim represents.ordered, represents.stores,
      Finset.mem_sdiff, Finset.mem_filter]
    apply and_congr_right
    intro member
    rw [and_iff_right member]

/-- A trie and the set that it represents give the same answer, and the trie
represents the set that is left. -/
theorem serve (represents : trie.Represents held) (request : StoreRequest) :
    (trie.serve request).1 = (TextSet.serve held request).1 ∧
      (trie.serve request).2.Represents (TextSet.serve held request).2 := by
  cases request with
  | add text =>
      by_cases empty : text = []
      · simp only [Trie.serve, add?, TextSet.serve, empty, if_true, true_and]
        exact represents
      · simp only [Trie.serve, add?, TextSet.serve, empty, if_false, true_and]
        exact represents.insert empty
  | claim start test =>
      refine ⟨?_, represents.claim start test⟩
      exact congrArg StoreAnswer.claimed (represents.claimed_eq_sort start test)

theorem answers (represents : trie.Represents held)
    (requests : List StoreRequest) :
    StoreRequest.answers Trie.serve trie requests =
      StoreRequest.answers TextSet.serve held requests := by
  induction requests generalizing trie held with
  | nil => rfl
  | cons request later induction =>
      obtain ⟨same, left⟩ := represents.serve request
      rw [StoreRequest.answers, StoreRequest.answers, same, induction left]

end Trie.Represents

/-- Over any run of requests an empty trie answers as the empty set of texts
does. -/
theorem trie_answers_as_set (requests : List StoreRequest) :
    StoreRequest.answers Trie.serve .nil requests =
      StoreRequest.answers TextSet.serve ∅ requests :=
  Trie.Represents.empty.answers requests

/-- A claim by an id leaves the id itself and those that only look alike. -/
example :
    StoreRequest.answers Trie.serve .nil
        [.add "a/b".toList, .add "ab".toList, .add "a".toList, .add [],
          .add "a.c".toList, .add "a/b".toList,
          .claim "a".toList fun text =>
            text[1]? = some '.' || text[1]? = some '/',
          .claim [] fun _ => true, .claim [] fun _ => true] =
      [.added, .added, .added, .refused .emptyRouteId, .added, .added,
        .claimed ["a.c".toList, "a/b".toList],
        .claimed ["a".toList, "ab".toList], .claimed []] := by
  decide

end FileRouting
