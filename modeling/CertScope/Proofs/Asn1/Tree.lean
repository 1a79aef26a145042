import CertScope.Proofs.Asn1.Front

/-!
# Trees and their encodings

A value that stands first in a sequence can be read on its own from behind the
header of the sequence, and is then read as the tree that the whole sequence was
read with.  The two readings differ in how deep they may go and in the rules that
the value itself has to obey; neither can lead to another tree.
-/

namespace CertScope.Asn1

variable {value : Type}

/-! ## Depth -/

/-- One interpretation of values extends another. -/
def Extends (wider narrower : Element → Except Error value) : Prop :=
  ∀ ⦃element result⦄, narrower element = .ok result → wider element = .ok result

theorem readAll_extends {wider narrower : Element → Except Error value}
    (extends_ : Extends wider narrower) {steps : Nat} {bytes : Bytes} {results : List value}
    (read : readAll narrower steps bytes = .ok results) :
    readAll wider steps bytes = .ok results := by
  induction steps generalizing bytes results with
  | zero => cases bytes <;> exact read
  | succ steps ih =>
      cases bytes with
      | nil => exact read
      | cons byte bytes =>
          simp only [readAll] at read ⊢
          cases taken : readBasicElement (byte :: bytes) with
          | error failure => cases failure <;> simp [taken] at read
          | ok step =>
              simp only [taken, Outcome.bind_eq_ok, Outcome.pure_eq_ok] at read ⊢
              obtain ⟨first, interpreted, others, readOthers, rfl⟩ := read
              exact ⟨first, extends_ interpreted, others, ih readOthers, rfl⟩

/-- What a tree can be: a value of another class as it is, a sequence or a set of
trees, or a value that holds no others. -/
theorem interpret_eq_ok {depth : Nat} {element : Element} {node : Node} :
    interpret (depth + 1) element = .ok node ↔
      (element.header.tagClass ≠ .universal ∧ .mk element.header (.raw element.contents) = node) ∨
      (element.header.tagClass = .universal ∧ element.isCollection = true ∧
        element.header.constructed = true ∧
        ∃ elements,
          readAll (interpret depth) element.contents.length element.contents = .ok elements ∧
          .mk element.header
            (if element.header.tag = Tag.sequence then .sequence elements else .set elements) =
            node) ∨
      (element.header.tagClass = .universal ∧ element.isCollection = false ∧
        ∃ content, primitiveContent element = .ok content ∧
          .mk element.header content = node) := by
  rw [interpret]
  by_cases foreign : element.header.tagClass = .universal
  · cases collection : element.isCollection with
    | false => simp [foreign]
    | true => cases constructed : element.header.constructed <;> simp [foreign]
  · simp [foreign]

/-- A value that can be interpreted at some depth is interpreted alike at any
greater one. -/
theorem interpret_succ (depth : Nat) : Extends (interpret (depth + 1)) (interpret depth) := by
  induction depth with
  | zero =>
      intro element node read
      simp [interpret] at read
  | succ depth ih =>
      intro element node read
      rw [interpret_eq_ok] at read ⊢
      obtain foreign | ⟨own, collection, constructed, elements, readElements, given⟩ | single :=
        read
      · exact Or.inl foreign
      · exact Or.inr (Or.inl ⟨own, collection, constructed, elements,
          readAll_extends ih readElements, given⟩)
      · exact Or.inr (Or.inr single)

/-! ## Parts of a tree -/

/-- What holds no other values is no sequence of them. -/
theorem primitiveContent_ne_sequence {element : Element} {elements : List Node} :
    primitiveContent element ≠ .ok (.sequence elements) := by
  intro read
  simp only [primitiveContent, ite_eq_iff, Outcome.bind_eq_ok, Outcome.pure_eq_ok,
    Outcome.throw_eq_ok, reduceCtorEq, and_false, or_false, exists_false, Except.ok.injEq]
    at read
  -- Only the contents of bit strings and of truth values are looked at.
  obtain ⟨-, bits⟩ | ⟨-, -, truth⟩ := read
  · cases contents : element.contents <;> simp [contents] at bits
  · split at truth <;> simp at truth

theorem readAll_of_asSequence {depth : Nat} {element : Element} {node : Node}
    {elements : List Node} (read : interpret (depth + 1) element = .ok node)
    (sequence : node.asSequence = .ok elements) :
    readAll (interpret depth) element.contents.length element.contents = .ok elements := by
  obtain ⟨-, rfl⟩ | ⟨-, -, -, found, readElements, rfl⟩ | ⟨-, -, content, single, rfl⟩ :=
    interpret_eq_ok.1 read
  · simp [Node.asSequence, Node.content] at sequence
  · by_cases ordered : element.header.tag = Tag.sequence
    · simp only [Node.asSequence, Node.content, ordered, if_true, Except.ok.injEq] at sequence
      exact sequence ▸ readElements
    · simp [Node.asSequence, Node.content, ordered] at sequence
  · cases content with
    | sequence inner => exact (primitiveContent_ne_sequence single).elim
    | _ => simp [Node.asSequence, Node.content] at sequence

theorem readAll_cons {interpretation : Element → Except Error value} {steps : Nat}
    {bytes : Bytes} {first : value} {others : List value}
    (read : readAll interpretation steps bytes = .ok (first :: others)) :
    ∃ element rest, readBasicElement bytes = .ok (element, rest) ∧
      interpretation element = .ok first := by
  cases bytes with
  | nil => cases steps <;> simp [readAll] at read
  | cons byte bytes =>
      cases steps with
      | zero => simp [readAll] at read
      | succ steps =>
          simp only [readAll] at read
          split at read
          · simp at read
          · simp at read
          · rename_i element rest taken
            simp only [Outcome.bind_eq_ok, Outcome.pure_eq_ok, List.cons.injEq] at read
            obtain ⟨given, interpreted, -, -, rfl, -⟩ := read
            exact ⟨element, rest, taken, interpreted⟩

/-! ## Whole values -/

/-- When a tree is read: its header and its contents stand in front, its contents
obey the distinguished rules, and they can be interpreted. -/
theorem readNode_eq_ok {bytes rest : Bytes} {node : Node} :
    readNode bytes = .ok (node, rest) ↔
      ∃ header contents, readHeader bytes = .ok (header, contents ++ rest) ∧
        contents.length = header.count ∧ checkDistinguished header contents = .ok () ∧
        interpret maxDepth ⟨header, contents⟩ = .ok node := by
  simp only [readNode, ite_eq_iff, Outcome.bind_eq_ok, Outcome.pure_eq_ok, Outcome.throw_eq_ok,
    refuse_eq_ok, false_and, exists_false, and_false, false_or]
  constructor
  · rintro ⟨⟨header, left⟩, headed, -, ⟨contents, behind⟩, taken, ⟨⟩, obeyed, found,
      interpreted, given⟩
    obtain ⟨rfl, rfl⟩ := Prod.mk.inj given
    obtain ⟨rfl, counted⟩ := take_eq_ok.1 taken
    exact ⟨header, contents, headed, counted, obeyed, interpreted⟩
  · rintro ⟨header, contents, headed, counted, obeyed, interpreted⟩
    refine ⟨(header, contents ++ rest), headed, ?_, (contents, rest),
      take_eq_ok.2 ⟨rfl, counted⟩, (), obeyed, node, interpreted, rfl⟩
    rintro ⟨-, short⟩
    simp only [List.length_append] at short
    omega

theorem readNode_takesFront : TakesFront readNode := by
  intro bytes node rest read
  obtain ⟨header, contents, headed, counted, obeyed, interpreted⟩ := readNode_eq_ok.1 read
  obtain ⟨taken, rfl, again⟩ := readHeader_takesFront headed
  refine ⟨taken ++ contents, by simp, fun behind => ?_⟩
  exact readNode_eq_ok.2 ⟨header, contents, by simpa using again (contents ++ behind), counted,
    obeyed, interpreted⟩

/-- A value in definite form is taken alike off a string and off any longer one. -/
theorem readBasicElement_append {bytes left behind rest : Bytes} {element : Element}
    {header : Header} (taken : readBasicElement bytes = .ok (element, left))
    (headed : readHeader (bytes ++ behind) = .ok (header, rest)) :
    element.header = header ∧ rest = element.contents ++ (left ++ behind) ∧
      element.contents.length = header.count := by
  simp only [readBasicElement, Outcome.bind_eq_ok, Outcome.pure_eq_ok] at taken
  obtain ⟨⟨found, after⟩, readFound, ⟨contents, last⟩, takenContents, given⟩ := taken
  obtain ⟨rfl, rfl⟩ := Prod.mk.inj given
  obtain ⟨front, rfl, again⟩ := readBasicHeader_takesFront readFound
  have longer := again (after ++ behind)
  rw [← List.append_assoc, readBasicHeader_of_readHeader headed] at longer
  obtain ⟨rfl, rfl⟩ := Prod.mk.inj (Except.ok.inj longer)
  have shallow : maxDepth ≠ 0 := by decide
  simp only [takeContents, readHeader_definite headed, shallow, if_false] at takenContents
  obtain ⟨rfl, counted⟩ := take_eq_ok.1 takenContents
  exact ⟨rfl, by simp, counted⟩

/-- The first value of a sequence, read on its own from behind the header of the
sequence, is the first element of the tree. -/
theorem readNode_first {bytes behind contents rest : Bytes} {whole first node : Node}
    {others : List Node} {header : Header} (read : readNode bytes = .ok (whole, behind))
    (sequence : whole.asSequence = .ok (first :: others))
    (headed : readHeader bytes = .ok (header, contents))
    (readFirst : readNode contents = .ok (node, rest)) : node = first := by
  obtain ⟨sameHeader, inner, sameHeaded, -, -, interpreted⟩ := readNode_eq_ok.1 read
  obtain ⟨rfl, rfl⟩ := Prod.mk.inj (Except.ok.inj (sameHeaded.symm.trans headed))
  obtain ⟨element, left, taken, interpretedFirst⟩ :=
    readAll_cons (readAll_of_asSequence interpreted sequence)
  obtain ⟨firstHeader, firstContents, firstHeaded, counted, -, interpretedNode⟩ :=
    readNode_eq_ok.1 readFirst
  -- Both readings take the same octets; they differ in the depth that is left.
  obtain ⟨rfl, split, alsoCounted⟩ := readBasicElement_append taken firstHeaded
  obtain ⟨rfl, -⟩ := List.append_inj split (counted.trans alsoCounted.symm)
  have deeper := interpret_succ _ interpretedFirst
  exact Except.ok.inj (interpretedNode.symm.trans deeper)

end CertScope.Asn1
