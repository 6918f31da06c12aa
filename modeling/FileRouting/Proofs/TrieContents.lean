import FileRouting.Trie

/-!
# What a trie holds

A trie is known by the texts that it stores.  Inserting adds one text, and a
claim takes exactly the stored texts that start with a prefix and pass a test;
both say so in terms of membership in the list of stored texts.

A claim looks below one branch only, and so relies on the order of branches: no
two siblings have the same label.
-/

namespace FileRouting.Trie

/-- Labels of the branches of a trie, without those further down. -/
def labels : Trie → List Char
  | .nil => []
  | .node label _ _ siblings => label :: siblings.labels

/-- At every level the labels ascend. -/
def Ordered : Trie → Prop
  | .nil => True
  | .node label _ children siblings =>
      (∀ other ∈ siblings.labels, label < other) ∧
        children.Ordered ∧ siblings.Ordered

theorem nil_notMem_toList (trie : Trie) : [] ∉ trie.toList := by
  induction trie with
  | nil => simp [toList]
  | node label stored children siblings _ induction =>
      simp [toList, induction]

theorem cons_mem_toList_node {label c : Char} {stored : Bool}
    {children siblings : Trie} {rest : Text} :
    c :: rest ∈ (node label stored children siblings).toList ↔
      c = label ∧ (rest = [] ∧ stored = true ∨ rest ∈ children.toList) ∨
        c :: rest ∈ siblings.toList := by
  cases stored <;> simp [toList] <;> grind

theorem label_of_mem_toList {trie : Trie} {c : Char} {rest : Text}
    (member : c :: rest ∈ trie.toList) : c ∈ trie.labels := by
  induction trie with
  | nil => simp [toList] at member
  | node label stored children siblings _ induction =>
      rcases cons_mem_toList_node.mp member with ⟨rfl, _⟩ | later
      · exact List.mem_cons_self
      · exact List.mem_cons_of_mem _ (induction later)

theorem notMem_siblings {label : Char} {stored : Bool}
    {children siblings : Trie}
    (ordered : (node label stored children siblings).Ordered) (rest : Text) :
    label :: rest ∉ siblings.toList := by
  intro member
  exact Char.lt_irrefl label (ordered.1 label (label_of_mem_toList member))

section Insert

theorem mem_toList_singleton {text other : Text} :
    other ∈ (singleton text).toList ↔ other = text ∧ text ≠ [] := by
  induction text generalizing other with
  | nil => simp [singleton, toList]
  | cons c rest induction =>
      cases rest with
      | nil => simp [singleton, toList]
      | cons d further =>
          simp only [singleton, toList, List.isEmpty_cons, Bool.false_eq_true,
            if_false, List.nil_append, List.append_nil, List.mem_map] at *
          constructor
          · rintro ⟨inner, member, rfl⟩
            exact ⟨by rw [(induction.mp member).1], List.cons_ne_nil _ _⟩
          · rintro ⟨rfl, _⟩
            exact ⟨d :: further,
              induction.mpr ⟨rfl, List.cons_ne_nil _ _⟩, rfl⟩

/-- Inserting adds the text and nothing else.  The induction also passes the
end of the text, where there is nothing left to add. -/
theorem mem_toList_insert {trie : Trie} {text other : Text} :
    other ∈ (trie.insert text).toList ↔
      other = text ∧ text ≠ [] ∨ other ∈ trie.toList := by
  induction trie generalizing text other with
  | nil =>
      cases text with
      | nil => simp [insert]
      | cons c rest =>
          simp only [insert, mem_toList_singleton]
          simp [toList]
  | node label stored children siblings childInduction siblingInduction =>
      cases text with
      | nil => simp [insert]
      | cons c rest =>
          cases other with
          | nil => simp [nil_notMem_toList]
          | cons d further =>
              by_cases same : c = label
              · subst same
                rw [insert, if_pos rfl, cons_mem_toList_node,
                  cons_mem_toList_node, childInduction]
                cases rest <;> grind
              · by_cases before : c < label
                · rw [insert, if_neg same, if_pos before,
                    cons_mem_toList_node, mem_toList_singleton]
                  cases rest <;> grind
                · rw [insert, if_neg same, if_neg before,
                    cons_mem_toList_node, cons_mem_toList_node,
                    siblingInduction]
                  grind

theorem singleton_ordered (text : Text) : (singleton text).Ordered := by
  induction text with
  | nil => trivial
  | cons c rest induction =>
      exact ⟨fun other member => by simp [labels] at member, induction, trivial⟩

theorem labels_insert {trie : Trie} {c other : Char} {rest : Text} :
    other ∈ (trie.insert (c :: rest)).labels ↔
      other = c ∨ other ∈ trie.labels := by
  induction trie with
  | nil => simp [insert, singleton, labels]
  | node label stored children siblings _ induction =>
      by_cases same : c = label
      · simp [insert, labels, same]
      · by_cases before : c < label
        · simp [insert, labels, same, before]
        · simp [insert, labels, same, before, induction, or_left_comm]

theorem insert_ordered {trie : Trie} (ordered : trie.Ordered) (text : Text) :
    (trie.insert text).Ordered := by
  induction trie generalizing text with
  | nil =>
      cases text with
      | nil => trivial
      | cons c rest => exact singleton_ordered (c :: rest)
  | node label stored children siblings childInduction siblingInduction =>
      obtain ⟨ascending, childOrdered, siblingOrdered⟩ := ordered
      cases text with
      | nil => exact ⟨ascending, childOrdered, siblingOrdered⟩
      | cons c rest =>
          by_cases same : c = label
          · rw [insert, if_pos same]
            exact ⟨ascending, childInduction childOrdered rest, siblingOrdered⟩
          · by_cases before : c < label
            · rw [insert, if_neg same, if_pos before]
              refine ⟨?_, singleton_ordered rest, ascending, childOrdered,
                siblingOrdered⟩
              intro other member
              rcases List.mem_cons.mp member with rfl | later
              · exact before
              · exact Char.lt_trans before (ascending other later)
            · rw [insert, if_neg same, if_neg before]
              refine ⟨?_, childOrdered, siblingInduction siblingOrdered _⟩
              intro other member
              rcases labels_insert.mp member with rfl | later
              · exact Char.not_le.mp fun below =>
                  same (Char.le_antisymm below (Char.not_lt.mp before))
              · exact ascending other later

end Insert

section Claim

variable {trie : Trie} {start text suffix : Text} {test : Text → Bool}

theorem mem_suffixes (ordered : trie.Ordered) :
    suffix ∈ trie.suffixes start ↔
      start ++ suffix ∈ trie.toList := by
  induction trie generalizing start with
  | nil => cases start <;> simp [suffixes, toList]
  | node label stored children siblings childInduction siblingInduction =>
      cases start with
      | nil => simp [suffixes]
      | cons c rest =>
          have inChildren :
              suffix ∈ children.suffixes rest ↔
                rest ++ suffix ∈ children.toList :=
            childInduction ordered.2.1
          have inSiblings :
              suffix ∈ siblings.suffixes (c :: rest) ↔
                c :: rest ++ suffix ∈ siblings.toList :=
            siblingInduction ordered.2.2
          by_cases same : c = label
          · subst same
            have absent := notMem_siblings ordered (rest ++ suffix)
            rw [suffixes, if_pos rfl, List.cons_append, cons_mem_toList_node]
            cases rest <;> cases stored <;> grind
          · rw [suffixes, if_neg same, List.cons_append, cons_mem_toList_node]
            grind

theorem labels_keep : (trie.keep test).labels = trie.labels := by
  induction trie generalizing test with
  | nil => rfl
  | node label stored children siblings _ induction =>
      simp [keep, labels, induction]

theorem keep_ordered (ordered : trie.Ordered) : (trie.keep test).Ordered := by
  induction trie generalizing test with
  | nil => trivial
  | node label stored children siblings childInduction siblingInduction =>
      obtain ⟨ascending, childOrdered, siblingOrdered⟩ := ordered
      refine ⟨?_, childInduction childOrdered, siblingInduction siblingOrdered⟩
      rwa [labels_keep]

theorem mem_toList_keep :
    text ∈ (trie.keep test).toList ↔
      text ∈ trie.toList ∧ test text = true := by
  induction trie generalizing test text with
  | nil => simp [keep, toList]
  | node label stored children siblings childInduction siblingInduction =>
      cases text with
      | nil => simp [nil_notMem_toList]
      | cons c rest =>
          rw [keep, cons_mem_toList_node, cons_mem_toList_node,
            childInduction, siblingInduction]
          grind

theorem labels_release : (trie.release start test).labels = trie.labels := by
  induction trie generalizing start with
  | nil => cases start <;> rfl
  | node label stored children siblings _ induction =>
      cases start with
      | nil => exact labels_keep
      | cons c rest =>
          by_cases same : c = label
          · simp [release, same, labels]
          · simp [release, same, labels, induction]

theorem release_ordered (ordered : trie.Ordered) :
    (trie.release start test).Ordered := by
  induction trie generalizing start with
  | nil => cases start <;> trivial
  | node label stored children siblings childInduction siblingInduction =>
      cases start with
      | nil => exact keep_ordered ordered
      | cons c rest =>
          obtain ⟨ascending, childOrdered, siblingOrdered⟩ := ordered
          by_cases same : c = label
          · rw [release, if_pos same]
            exact ⟨ascending, childInduction childOrdered, siblingOrdered⟩
          · rw [release, if_neg same]
            refine ⟨?_, childOrdered, siblingInduction siblingOrdered⟩
            rwa [labels_release]

/-- A release forgets the texts that start with the prefix and pass the test,
and no others. -/
theorem mem_toList_release (ordered : trie.Ordered) :
    text ∈ (trie.release start test).toList ↔
      text ∈ trie.toList ∧
        ∀ suffix, text = start ++ suffix → test suffix = false := by
  induction trie generalizing start text with
  | nil => cases start <;> simp [release, keep, toList]
  | node label stored children siblings childInduction siblingInduction =>
      cases start with
      | nil => simp [release, mem_toList_keep]
      | cons c rest =>
          cases text with
          | nil => simp [nil_notMem_toList]
          | cons d further =>
              by_cases same : c = label
              · subst same
                have absent := notMem_siblings ordered further
                rw [release, if_pos rfl, cons_mem_toList_node,
                  cons_mem_toList_node, childInduction ordered.2.1]
                cases rest <;> grind
              · rw [release, if_neg same, cons_mem_toList_node,
                  cons_mem_toList_node, siblingInduction ordered.2.2]
                grind

theorem mem_claimed (ordered : trie.Ordered) :
    text ∈ (trie.claim start test).1 ↔
      text ∈ trie.toList ∧ start <+: text ∧ test text = true := by
  simp only [claim, List.mem_map, List.mem_filter, mem_suffixes ordered]
  constructor
  · rintro ⟨suffix, ⟨stored, passes⟩, rfl⟩
    exact ⟨stored, List.prefix_append start suffix, passes⟩
  · rintro ⟨stored, ⟨suffix, rfl⟩, passes⟩
    exact ⟨suffix, ⟨stored, passes⟩, rfl⟩

theorem mem_left_by_claim (ordered : trie.Ordered) :
    text ∈ (trie.claim start test).2.toList ↔
      text ∈ trie.toList ∧ ¬ (start <+: text ∧ test text = true) := by
  simp only [claim, mem_toList_release ordered]
  apply and_congr_right
  intro _
  constructor
  · rintro fails ⟨⟨suffix, rfl⟩, passes⟩
    simp [fails suffix rfl] at passes
  · rintro fails suffix rfl
    simpa using fun passes =>
      fails ⟨List.prefix_append start suffix, passes⟩

theorem claim_ordered (ordered : trie.Ordered) :
    (trie.claim start test).2.Ordered :=
  release_ordered ordered

end Claim

end FileRouting.Trie
