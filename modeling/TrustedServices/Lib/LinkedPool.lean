import Mathlib

set_option autoImplicit false

/- Nodes on two lists: the free ones singly linked, the active ones doubly linked. -/
namespace Lib

variable {Node : Type}

/-- Following `next` from `start` visits the nodes of the list, in order, and ends. -/
def Path (next : Node → Option Node) : Option Node → List Node → Prop
  | start, [] => start = none
  | start, node :: rest => start = some node ∧ Path next (next node) rest

/-- Follow `next` from `start` to the first node that is looked for. -/
def walk (next : Node → Option Node) (found : Node → Bool) : Nat → Option Node → Option Node
  | 0, _ => none
  | _ + 1, none => none
  | fuel + 1, some node => if found node then some node else walk next found fuel (next node)

namespace Path

variable {next : Node → Option Node} {start : Option Node} {nodes : List Node} {node : Node}
  {front back : List Node}

theorem walk_eq {found : Node → Bool} {fuel : Nat}
    (path : Path next start nodes) (enough : nodes.length ≤ fuel) :
    walk next found fuel start = nodes.find? found := by
  induction nodes generalizing start fuel with
  | nil =>
    obtain rfl : start = none := path
    cases fuel with
    | zero => rfl
    | succ fuel => rfl
  | cons node rest ih =>
    cases fuel with
    | zero => cases enough
    | succ fuel =>
      rw [path.1, walk, List.find?_cons]
      cases found node with
      | true => rfl
      | false => exact ih path.2 (Nat.le_of_succ_le_succ enough)

theorem start_eq (path : Path next start nodes) : start = nodes.head? := by
  cases nodes with
  | nil => exact path
  | cons node rest => exact path.1

theorem congr {other : Node → Option Node} (path : Path next start nodes)
    (same : ∀ node ∈ nodes, other node = next node) : Path other start nodes := by
  induction nodes generalizing start with
  | nil => exact path
  | cons node rest ih =>
    obtain ⟨first, later⟩ := List.forall_mem_cons.mp same
    refine ⟨path.1, ?_⟩
    rw [first]
    exact ih path.2 later

theorem next_eq (path : Path next start (front ++ node :: back)) : next node = back.head? := by
  induction front generalizing start with
  | nil => exact path.2.start_eq
  | cons first rest ih => exact ih path.2

theorem behind (path : Path next start (front ++ node :: back)) : Path next (next node) back := by
  induction front generalizing start with
  | nil => exact path.2
  | cons first rest ih => exact ih path.2

variable [DecidableEq Node]

theorem update (path : Path next start nodes) (outside : node ∉ nodes) (target : Option Node) :
    Path (Function.update next node target) start nodes := by
  apply path.congr
  intro other member
  apply Function.update_of_ne
  rintro rfl
  exact outside member

theorem join {last : Node} {target : Option Node}
    {tail : List Node} (path : Path next start (front ++ last :: tail))
    (rest : Path next target back) (distinct : (front ++ last :: back).Nodup) :
    Path (Function.update next last target) start (front ++ last :: back) := by
  induction front generalizing start with
  | nil =>
    obtain ⟨fresh, _⟩ := List.nodup_cons.mp distinct
    refine ⟨path.1, ?_⟩
    rw [Function.update_self]
    exact rest.update fresh _
  | cons first middle ih =>
    obtain ⟨fresh, others⟩ := List.nodup_cons.mp distinct
    refine ⟨path.1, ?_⟩
    rw [Function.update_of_ne (fun same => fresh (by rw [same]; simp))]
    exact ih path.2 others

end Path

/-- The links of a pool: each node's own, and the ends of the two lists. -/
structure Links (Node : Type) where
  free : Option Node
  head : Option Node
  tail : Option Node
  next : Node → Option Node
  prev : Node → Option Node

namespace Links

def empty : Links Node := ⟨none, none, none, fun _ => none, fun _ => none⟩

section

variable [DecidableEq Node]

section

variable (links : Links Node) (node : Node)

def addFree : Links Node :=
  { links with
    free := some node
    next := Function.update links.next node links.free
    prev := Function.update links.prev node none }

/-- Move the first free node, `node`, to the front of the active list. -/
def activate : Links Node where
  free := links.next node
  head := some node
  tail := match links.tail with
    | none => some node
    | some last => some last
  next := Function.update links.next node links.head
  prev := match links.head with
    | none => Function.update links.prev node none
    | some first => Function.update (Function.update links.prev node none) first (some node)

def unlink : Links Node :=
  { links with
    head := match links.prev node with
      | none => links.next node
      | some _ => links.head
    tail := match links.next node with
      | none => links.prev node
      | some _ => links.tail
    next := match links.prev node with
      | none => links.next
      | some before => Function.update links.next before (links.next node)
    prev := match links.next node with
      | none => links.prev
      | some behind => Function.update links.prev behind (links.prev node) }

/-- Move an active node to the front of the free list. -/
def release : Links Node := (links.unlink node).addFree node

end

end

/-- The links thread the free list and, in both directions, the active list; no node is on
them twice. -/
structure Represents (links : Links Node) (free active : List Node) : Prop where
  freePath : Path links.next links.free free
  forward : Path links.next links.head active
  backward : Path links.prev links.tail active.reverse
  distinct : (free ++ active).Nodup

namespace Represents

variable {links : Links Node} {free active : List Node} {node : Node}

theorem empty : (Links.empty : Links Node).Represents [] [] where
  freePath := rfl
  forward := rfl
  backward := rfl
  distinct := List.nodup_nil

theorem active_apart (represents : links.Represents free active) (member : node ∈ active) :
    node ∉ free :=
  fun other => (List.disjoint_of_nodup_append represents.distinct) other member

variable [DecidableEq Node]

theorem addFree (represents : links.Represents free active) (fresh : node ∉ free ++ active) :
    (links.addFree node).Represents (node :: free) active := by
  rw [List.mem_append, not_or] at fresh
  refine ⟨⟨rfl, ?_⟩, ?_, ?_, ?_⟩
  · simp only [Links.addFree, Function.update_self]
    exact represents.freePath.update fresh.1 _
  · exact represents.forward.update fresh.2 _
  · apply represents.backward.update
    rw [List.mem_reverse]
    exact fresh.2
  · rw [List.cons_append, List.nodup_cons, List.mem_append, not_or]
    exact ⟨fresh, represents.distinct⟩

theorem activate (represents : links.Represents (node :: free) active) :
    (links.activate node).Represents free (node :: active) := by
  have fresh : node ∉ free ++ active := (List.nodup_cons.mp represents.distinct).1
  rw [List.mem_append, not_or] at fresh
  have distinct : (free ++ node :: active).Nodup :=
    (List.perm_middle.nodup_iff).mpr represents.distinct
  have reversed : (active.reverse ++ [node]).Nodup := by
    rw [← List.reverse_cons, List.nodup_reverse]
    exact (List.nodup_append.mp distinct).2.1
  refine ⟨?_, ⟨rfl, ?_⟩, ?_, distinct⟩
  · exact represents.freePath.2.update fresh.1 _
  · simp only [Links.activate, Function.update_self]
    exact represents.forward.update fresh.2 _
  · have head := represents.forward.start_eq
    have tail := represents.backward.start_eq
    -- the old head is the last node of the reversed list, and gets the new node as its link
    cases active with
    | nil =>
      simp only [Links.activate, head, tail, List.head?_nil, List.reverse_nil,
        List.reverse_singleton]
      exact ⟨rfl, Function.update_self _ _ _⟩
    | cons first rest =>
      obtain ⟨last, found⟩ : ∃ last, links.tail = some last := by
        rw [tail, List.reverse_cons]
        cases rest.reverse with
        | nil => exact ⟨first, rfl⟩
        | cons last _ => exact ⟨last, rfl⟩
      simp only [Links.activate, head, found, List.head?_cons, List.reverse_cons,
        List.append_assoc, List.singleton_append]
      have path : Path (Function.update links.prev node none) links.tail
          (rest.reverse ++ first :: []) := by
        rw [← List.reverse_cons]
        apply represents.backward.update
        rw [List.mem_reverse]
        exact fresh.2
      rw [← found]
      exact path.join ⟨rfl, Function.update_self _ _ _⟩ (by simpa using reversed)

variable {front back : List Node}

/-- One direction of unlinking: bypass a node from the node before it, or from the start. -/
theorem bypass {next : Node → Option Node} {start : Option Node}
    (path : Path next start (front ++ node :: back)) (distinct : (front ++ node :: back).Nodup) :
    Path
      (match front.getLast? with
        | none => next
        | some before => Function.update next before (next node)) (match front.getLast? with
        | none => next node
        | some _ => start) (front ++ back) := by
  have rest := path.behind
  rcases List.eq_nil_or_concat front with nil | ⟨before, last, concat⟩
  · subst nil
    exact rest
  · rw [List.concat_eq_append] at concat
    subst concat
    simp only [List.getLast?_append, List.getLast?_singleton, Option.some_or,
      List.append_assoc, List.singleton_append] at path distinct ⊢
    apply path.join rest
    apply List.Nodup.sublist _ distinct
    exact (List.Sublist.cons _ (List.Sublist.refl _)).cons_cons last |>.append_left before

section

variable (represents : links.Represents free (front ++ node :: back))

include represents

theorem unlink : (links.unlink node).Represents free (front ++ back) := by
  have distinct := (List.nodup_append.mp represents.distinct).2.1
  have backward : Path links.prev links.tail (back.reverse ++ node :: front.reverse) := by
    simpa using represents.backward
  have next : links.next node = back.reverse.getLast? := by
    rw [represents.forward.next_eq, List.getLast?_reverse]
  have prev : links.prev node = front.getLast? := by
    rw [backward.next_eq, List.head?_reverse]
  refine ⟨?_, ?_, ?_, ?_⟩
  · simp only [Links.unlink, prev]
    cases found : front.getLast? with
    | none => exact represents.freePath
    | some before =>
      apply represents.freePath.update
      apply represents.active_apart
      rw [List.mem_append]
      exact .inl (List.mem_of_getLast? found)
  · have path := bypass represents.forward distinct
    rw [← prev] at path
    exact path
  · have path := bypass backward (by
      rw [← List.nodup_reverse]
      simpa using distinct)
    rw [← next] at path
    rw [List.reverse_append]
    exact path
  · apply List.Nodup.sublist _ represents.distinct
    exact (List.Sublist.cons _ (List.Sublist.refl _)).append_left front |>.append_left free

theorem release : (links.release node).Represents (node :: free) (front ++ back) := by
  apply represents.unlink.addFree
  have distinct := (List.nodup_append.mp represents.distinct).2.1
  have outside := (List.nodup_middle.mp distinct)
  rw [List.mem_append, not_or]
  exact ⟨represents.active_apart (by simp), (List.nodup_cons.mp outside).1⟩

end

end Represents

end Links

end Lib
