/-!
# Token sets

Sets of strings as ascending lists, so that equal sets are equal lists.
-/
namespace ClusterDriver

structure TokenSet where
  items : List String
  ascending : items.Pairwise (· < ·)
  deriving DecidableEq

namespace TokenSet

def place (token : String) : List String → List String
  | [] => [token]
  | t :: rest =>
    if token < t then token :: t :: rest
    else if token = t then t :: rest
    else t :: place token rest

theorem mem_place {a token : String} {items : List String} :
    a ∈ place token items ↔ a = token ∨ a ∈ items := by
  induction items with
  | nil => simp [place]
  | cons t rest ih =>
    rw [place]
    split
    · simp
    · split
      · rename_i h
        subst h
        simp
      · simp only [List.mem_cons, ih]
        constructor
        · rintro (h | h | h) <;> simp [h]
        · rintro (h | h | h) <;> simp [h]

theorem ascending_place (token : String) {items : List String}
    (h : items.Pairwise (· < ·)) : (place token items).Pairwise (· < ·) := by
  induction items with
  | nil => simp [place]
  | cons t rest ih =>
    have ht := List.pairwise_cons.1 h
    rw [place]
    split
    · rename_i hlt
      refine List.pairwise_cons.2 ⟨?_, h⟩
      intro a ha
      rcases List.mem_cons.1 ha with rfl | ha
      · exact hlt
      · exact String.lt_trans hlt (ht.1 a ha)
    · split
      · exact h
      · rename_i hlt hne
        refine List.pairwise_cons.2 ⟨?_, ih ht.2⟩
        intro a ha
        rcases mem_place.1 ha with rfl | ha
        · have hle : t ≤ a := String.not_lt.1 hlt
          exact Decidable.byContradiction fun hn =>
            hne (String.le_antisymm (String.not_lt.1 hn) hle)
        · exact ht.1 a ha

def empty : TokenSet := ⟨[], .nil⟩

def insert (s : TokenSet) (token : String) : TokenSet :=
  ⟨place token s.items, ascending_place token s.ascending⟩

def ofList (tokens : List String) : TokenSet := tokens.foldl insert empty

instance : Membership String TokenSet := ⟨fun s token => token ∈ s.items⟩

theorem mem_insert {a token : String} {s : TokenSet} :
    a ∈ s.insert token ↔ a = token ∨ a ∈ s := mem_place

theorem mem_ofList {a : String} {tokens : List String} : a ∈ ofList tokens ↔ a ∈ tokens := by
  have general : ∀ (ts : List String) (s : TokenSet),
      a ∈ ts.foldl insert s ↔ a ∈ s ∨ a ∈ ts := by
    intro ts
    induction ts with
    | nil => simp
    | cons t ts ih =>
      intro s
      rw [List.foldl_cons, ih, mem_insert, List.mem_cons]
      constructor
      · rintro ((h | h) | h) <;> simp [h]
      · rintro (h | h | h) <;> simp [h]
  rw [ofList, general]
  simp only [or_iff_right_iff_imp]
  exact fun h => absurd h (List.not_mem_nil)

end TokenSet
end ClusterDriver
