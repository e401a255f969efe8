import ClusterDriver.Proofs.Cluster.Operations
/-!
# Members and descriptors

What each operation on the node table does to the members and to the descriptors. In a table that
was empty at first, every member has a descriptor of its own, which has the address of the member.
-/
namespace ClusterDriver.NodeTable
variable {t t' t₀ : NodeTable} {a address : Endpoint} {id other : NodeId} {d : Descriptor}

theorem descriptor_lt (known : t.descriptor? id = some d) : id < t.descriptors.length :=
  (List.getElem?_eq_some_iff.1 known).1

theorem mem_memberAddresses : a ∈ t.memberAddresses ↔ t.member? a ≠ none := by
  rw [Option.ne_none_iff_exists']
  exact Table.mem_keys

theorem addNode_of_member (member : t.member? address = some id) : t.addNode address = (id, t) := by
  simp [addNode, member]

theorem member_addNode_of_absent (absent : t.member? address = none) (a : Endpoint) :
    (t.addNode address).2.member? a =
      if address = a then some t.descriptors.length else t.member? a := by
  have members : (t.addNode address).2.members =
      t.members.insert address t.descriptors.length := by
    simp [addNode, absent]
  rw [member?, members]
  exact Table.get?_insert t.members address a _

theorem member_addNode_other (other : address ≠ a) :
    (t.addNode address).2.member? a = t.member? a := by
  cases member : t.member? address with
  | some id => rw [addNode_of_member member]
  | none => rw [member_addNode_of_absent member, if_neg other]

theorem descriptors_addNode_of_absent (absent : t.member? address = none) :
    (t.addNode address).2.descriptors =
      t.descriptors ++ [{ address, metrics := t.factory.enabled }] := by
  simp [addNode, absent]

/-- The descriptor of a node that joins is a new one. -/
theorem descriptor_addNode_cases (known : (t.addNode address).2.descriptor? id = some d) :
    t.descriptor? id = some d ∨ t.member? address = none ∧ id = t.descriptors.length ∧
      d = { address, metrics := t.factory.enabled } := by
  cases member : t.member? address with
  | some _ => exact Or.inl (by rwa [addNode_of_member member] at known)
  | none =>
    rw [descriptor?, descriptors_addNode_of_absent member] at known
    by_cases old : id < t.descriptors.length
    · exact Or.inl (by rwa [List.getElem?_append_left old] at known)
    · have after := Nat.le_of_not_lt old
      rw [List.getElem?_append_right after, List.getElem?_singleton] at known
      split at known
      · next first =>
        have last := Nat.le_antisymm (Nat.sub_eq_zero_iff_le.1 first) after
        exact Or.inr ⟨rfl, last, (Option.some.inj known).symm⟩
      · cases known

theorem descriptor_addNode (known : t.descriptor? id = some d) (address : Endpoint) :
    (t.addNode address).2.descriptor? id = some d := by
  cases member : t.member? address with
  | some _ => rwa [addNode_of_member member]
  | none =>
    rw [descriptor?, descriptors_addNode_of_absent member,
      List.getElem?_append_left (descriptor_lt known)]
    exact known

theorem descriptor_addNode_new (absent : t.member? address = none) :
    (t.addNode address).2.descriptor? t.descriptors.length =
      some { address, metrics := t.factory.enabled } := by
  simp [descriptor?, descriptors_addNode_of_absent absent]

theorem factory_addNode (address : Endpoint) : (t.addNode address).2.factory = t.factory := by
  cases member : t.member? address <;> simp [addNode, member]

theorem length_addNode (address : Endpoint) :
    t.descriptors.length ≤ (t.addNode address).2.descriptors.length := by
  cases member : t.member? address <;> simp [addNode, member]

theorem member_removeNode (address a : Endpoint) :
    (t.removeNode address).2.member? a = if address = a then none else t.member? a := by
  cases member : t.member? address with
  | none =>
    have same : (t.removeNode address).2 = t := by simp [removeNode, member]
    by_cases h : address = a
    · subst h
      simp [same, member]
    · simp [same, h]
  | some id =>
    have members : (t.removeNode address).2.members = t.members.erase address := by
      simp [removeNode, member]
    rw [member?, members]
    exact Table.get?_erase t.members address a

theorem descriptor_removeNode (address : Endpoint) (id : NodeId) :
    (t.removeNode address).2.descriptor? id = t.descriptor? id := by
  cases member : t.member? address <;> simp [removeNode, member, descriptor?]

theorem descriptor_change (id : NodeId) (c : Change) (other : NodeId) :
    (t.change id c).descriptor? other =
      if id = other then (t.descriptor? other).map (·.apply c) else t.descriptor? other := by
  cases known : t.descriptor? id with
  | none =>
    by_cases h : id = other
    · subst h
      simp [change_of_unknown known, known]
    · simp [change_of_unknown known, h]
  | some d =>
    have replaced : (t.change id c).descriptors = t.descriptors.set id (d.apply c) := by
      rw [change_of_known known]
    rw [descriptor?, replaced]
    by_cases h : id = other
    · subst h
      rw [List.getElem?_set_self (descriptor_lt known), if_pos rfl, known, Option.map_some]
    · rw [List.getElem?_set_ne h, if_neg h]
      rfl

@[simp] theorem factory_change (id : NodeId) (c : Change) :
    (t.change id c).factory = t.factory := by
  cases known : t.descriptor? id with
  | none => rw [change_of_unknown known]
  | some d => rw [change_of_known known]

@[simp] theorem length_change (id : NodeId) (c : Change) :
    (t.change id c).descriptors.length = t.descriptors.length := by
  cases known : t.descriptor? id with
  | none => rw [change_of_unknown known]
  | some d => simp [change_of_known known]

@[simp] theorem member_changeMember (address : Endpoint) (c : Descriptor → Option Change)
    (a : Endpoint) : (t.changeMember address c).member? a = t.member? a := by
  simp only [changeMember]
  split
  · rfl
  · split
    · rfl
    · exact member_change t _ _ a

/-- Every member has a descriptor, which has the address of the member. -/
def Indexed (t : NodeTable) : Prop :=
  ∀ a id, t.member? a = some id → ∃ d, t.descriptor? id = some d ∧ d.address = a

/-- No two members share a descriptor. -/
theorem Indexed.address_unique (indexed : t.Indexed) {b : Endpoint}
    (first : t.member? a = some id) (second : t.member? b = some id) : a = b := by
  obtain ⟨d, known, rfl⟩ := indexed a id first
  obtain ⟨e, known', rfl⟩ := indexed b id second
  exact congrArg Descriptor.address (Option.some.inj (known.symm.trans known'))

theorem Indexed.perform (indexed : t.Indexed) (operation : Operation) :
    (t.perform operation).Indexed := by
  intro a id found
  cases operation with
  | add address =>
    simp only [NodeTable.perform] at found ⊢
    cases member : t.member? address with
    | some other =>
      rw [addNode_of_member member] at found ⊢
      exact indexed a id found
    | none =>
      rw [member_addNode_of_absent member] at found
      by_cases h : address = a
      · rw [if_pos h] at found
        obtain rfl := Option.some.inj found
        exact ⟨_, descriptor_addNode_new member, h⟩
      · rw [if_neg h] at found
        obtain ⟨d, known, same⟩ := indexed a id found
        exact ⟨d, descriptor_addNode known address, same⟩
  | remove address =>
    simp only [NodeTable.perform, member_removeNode, descriptor_removeNode] at found ⊢
    split at found
    · cases found
    · exact indexed a id found
  | change changed c =>
    simp only [NodeTable.perform, member_change, descriptor_change] at found ⊢
    obtain ⟨d, known, same⟩ := indexed a id found
    by_cases h : changed = id
    · exact ⟨d.apply c, by simp [h, known], (d.address_apply c).trans same⟩
    · exact ⟨d, by simp [h, known], same⟩

theorem Indexed.step (indexed : t.Indexed) (step : t.Step t') : t'.Indexed := by
  obtain ⟨operation, _, rfl⟩ := step
  exact indexed.perform operation

theorem Indexed.runs (indexed : t.Indexed) (runs : t.Runs t') : t'.Indexed := by
  induction runs with
  | refl => exact indexed
  | tail _ step ih => exact ih.step step

theorem indexed_of_empty (empty : t.members = .empty) : t.Indexed := by
  intro a id found
  simp [member?, empty] at found

end ClusterDriver.NodeTable
