import CrdToolset.Proofs.TypeGraph.ObjectTypes

/-!
# Names below a type

A type is named after the type that refers to it: something is put behind the name, or, for the
elements of a list, the last letter of a plural is taken off first. So all names below a type begin
with the name of the type, up to the letter that may be taken off.
-/

namespace CrdToolset

variable {g : TypeGraph} {node : TypeNode} {place i : Nat} {stem name : String}

/-- The name for the elements of a list keeps what the name of the list begins with, unless that
ends with the letter that a plural loses. -/
theorem exists_itemName (hlast : stem.toList.getLast? ≠ some 's') (rest : String) :
    ∃ rest', itemName (stem ++ rest) = stem ++ rest' := by
  unfold itemName
  dsimp only
  split
  case isFalse => exact ⟨rest ++ "Item", String.append_assoc ..⟩
  case isTrue h =>
    obtain ⟨hplural, _⟩ := h
    rw [String.toList_append] at hplural ⊢
    have hne : rest.toList ≠ [] := by
      intro hnil
      rw [hnil, List.append_nil] at hplural
      exact hlast hplural
    refine ⟨String.ofList rest.toList.dropLast ++ "Item", ?_⟩
    rw [List.dropLast_append_of_ne_nil hne, String.ofList_append, String.ofList_toList,
      String.append_assoc]

namespace TypeGraph.Built

/-- A type that another refers to has the name of the other with something behind it, or that of the
elements of a list. -/
theorem nameAt_of_mem_references (hg : g.Built) (h : g[place]? = some node)
    (hi : i ∈ node.references) :
    (∃ rest, g.nameAt i = node.name ++ rest) ∨ g.nameAt i = itemName node.name := by
  obtain ⟨p, hp⟩ := hg.describes h
  have hshape := hp.shape
  rw [hp.name]
  unfold TypeNode.references at hi
  generalize node.shape = shape at hshape hi
  cases hshape with
  | primitive => cases hi
  | object _ _ targets =>
    obtain ⟨e, he, rfl⟩ := List.mem_map.mp hi
    obtain ⟨t, _, htarget⟩ := targets e he
    exact .inl ⟨Naming.pascal e.name, htarget.nameAt⟩
  | array _ target =>
    obtain rfl := List.mem_singleton.mp hi
    exact .inr target.nameAt
  | map _ _ target =>
    obtain rfl := List.mem_singleton.mp hi
    exact .inl ⟨"Value", target.nameAt⟩
  | openMap => cases hi
  | unknown => cases hi

/-- Names below a type begin with what its name begins with, unless that ends with the letter that a
plural loses. -/
theorem exists_nameAt_of_mem_objectsAt (hg : g.Built) (hback : g.Backward)
    (hlast : stem.toList.getLast? ≠ some 's') (hi : i ∈ g.objectsAt place)
    (hplace : ∃ rest, g.nameAt place = stem ++ rest) : ∃ rest, g.nameAt i = stem ++ rest := by
  induction place using Nat.strongRecOn with
  | ind place ih =>
    obtain ⟨node, hnode⟩ := exists_of_mem_objectsAt hi
    rcases (mem_objectsAt hback hnode).mp hi with ⟨rfl, _⟩ | ⟨j, hj, hij⟩
    · exact hplace
    · refine ih j (hback place node hnode j hj) hij ?_
      obtain ⟨rest, hrest⟩ := hplace
      rw [nameAt_of_getElem? hnode] at hrest
      rcases hg.nameAt_of_mem_references hnode hj with ⟨more, hname⟩ | hname
      · exact ⟨rest ++ more, by rw [hname, hrest, String.append_assoc]⟩
      · obtain ⟨rest', hitem⟩ := exists_itemName hlast rest
        exact ⟨rest', by rw [hname, hrest, hitem]⟩

end TypeGraph.Built

end CrdToolset
