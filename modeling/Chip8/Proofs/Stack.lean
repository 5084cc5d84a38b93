import Mathlib
import Chip8.Proofs.Dialogue
import Chip8.Proofs.Execution

/-!
# Proofs/Stack — a call stack is a list of at most sixteen addresses

`FrameList` is the call stack as a program knows it: a list that a push makes longer and a pop
shorter, never of more than sixteen addresses.  Behind a `CallStack` there are sixteen slots, and
those at its depth and above keep the addresses of calls that have returned.  `CallStack.list` is
the view of it as a list.  Request by request nothing else can be seen (`CallStack.ask_list`), so
that any dialogue is one with the list, whatever the slots above the depth hold
(`CallStack.list_dialogue`).
-/

namespace Chip8

/-! ## Requests -/

/-- What a call stack is asked. -/
inductive StackRequest
  | push (address : Int)
  | pop
  | reset
  | frames
  | depth

/-- What a call stack replies. -/
inductive StackReply
  | done
  | address (a : Int)
  | frames (row : List Int)
  | depth (n : Nat)
  deriving DecidableEq

/-- The reply of a call stack and the stack behind it; a call that fails leaves it as it was. -/
def CallStack.ask (s : CallStack) : StackRequest → Except Fault StackReply × CallStack
  | .push a =>
    match s.push a with
    | .ok t => (.ok .done, t)
    | .error f => (.error f, s)
  | .pop =>
    match s.pop with
    | .ok (a, t) => (.ok (.address a), t)
    | .error f => (.error f, s)
  | .reset => (.ok .done, .empty)
  | .frames => (.ok (.frames s.frames), s)
  | .depth => (.ok (.depth s.depth), s)

/-! ## A list of frames -/

/-- At most sixteen addresses, oldest first. -/
@[ext]
structure FrameList where
  addresses : List Int
  length_le : addresses.length ≤ 16

namespace FrameList

/-- No address. -/
def empty : FrameList := ⟨[], by simp⟩

/-- An address modulo 0x10000 is appended as long as there are fewer than sixteen, and the last one
is taken off as long as there is one. -/
def ask (l : FrameList) : StackRequest → Except Fault StackReply × FrameList
  | .push a =>
    if h : l.addresses.length < 16 then
      (.ok .done, ⟨l.addresses ++ [a % 0x10000], by simpa using h⟩)
    else (.error (.stackOverflow a), l)
  | .pop =>
    match l.addresses.getLast? with
    | some a =>
      (.ok (.address a), ⟨l.addresses.dropLast, by have := l.length_le; simp; omega⟩)
    | none => (.error .stackUnderflow, l)
  | .reset => (.ok .done, empty)
  | .frames => (.ok (.frames l.addresses), l)
  | .depth => (.ok (.depth l.addresses.length), l)

end FrameList

/-! ## The view of a stack as a list -/

namespace CallStack

/-- The frames in use. -/
def list (s : CallStack) : FrameList where
  addresses := s.frames
  length_le := s.length_frames ▸ s.depth_le

theorem list_eq {s : CallStack} {l : FrameList} (h : s.frames = l.addresses) : s.list = l :=
  FrameList.ext h

/-- **Request by request the list replies as the stack does.** -/
theorem ask_list (s : CallStack) (r : StackRequest) :
    s.list.ask r = ((s.ask r).1, (s.ask r).2.list) := by
  have hlength : s.list.addresses.length = s.depth := s.length_frames
  cases r with
  | push a =>
    by_cases hd : s.depth < 16
    · obtain ⟨t, hpush, hframes⟩ := push_of_lt hd a
      rw [FrameList.ask, dif_pos (hlength ▸ hd), ask, hpush]
      exact congrArg _ (list_eq hframes).symm
    · have hfull : s.depth = 16 := le_antisymm s.depth_le (not_lt.mp hd)
      rw [FrameList.ask, dif_neg (hlength ▸ hd), ask, push_of_full hfull]
  | pop =>
    obtain ⟨hnil, hpop⟩ | ⟨a, t, hframes, hpop⟩ := s.pop_cases
    · have hlast : s.list.addresses.getLast? = none := List.getLast?_eq_none_iff.mpr hnil
      rw [FrameList.ask, hlast, ask, hpop]
    · have hlist : s.list.addresses = t.frames ++ [a] := hframes
      have hlast : s.list.addresses.getLast? = some a := by rw [hlist, List.getLast?_concat]
      have hrest : t.frames = s.list.addresses.dropLast := by rw [hlist, List.dropLast_concat]
      rw [FrameList.ask, hlast, ask, hpop]
      exact congrArg _ (list_eq hrest).symm
  | reset => rfl
  | frames => rfl
  | depth => rw [FrameList.ask, hlength, ask]

/-- A call that fails changes nothing. -/
theorem ask_of_error {s : CallStack} {r : StackRequest} {f : Fault} (h : (s.ask r).1 = .error f) :
    (s.ask r).2 = s := by
  cases r with
  | push a =>
    rw [ask] at h ⊢
    cases hpush : s.push a with
    | ok t => simp [hpush] at h
    | error => rfl
  | pop =>
    rw [ask] at h ⊢
    cases hpop : s.pop with
    | ok p => simp [hpop] at h
    | error => rfl
  | reset | frames | depth => cases h

theorem list_view : View ask FrameList.ask (fun _ => True) list where
  keeps _ _ _ := trivial
  same s r _ := s.ask_list r

/-! ## What lies above the depth -/

/-- A stack of the same depth with the same slots below it; the slots above may hold anything. -/
structure Alike (s t : CallStack) : Prop where
  depth : t.depth = s.depth
  slots : ∀ k, (h : k < 16) → k < s.depth → t.slots[k] = s.slots[k]

theorem Alike.list_eq {s t : CallStack} (h : s.Alike t) : t.list = s.list := by
  refine CallStack.list_eq (congrArg (List.map _) ?_)
  rw [h.depth]
  refine List.ext_getElem (by simp) fun k hk _ => ?_
  have hlt : k < s.depth := by simp at hk; omega
  simpa using h.slots k (by simp at hk; omega) hlt

/-- **A call stack is a list of at most sixteen addresses.**  From the empty stack every row of
requests has the replies of the list and leaves the frames that it holds, as many as the depth says.
What fails leaves the stack as it was, and a stack that differs above its depth only is not told
from it by anything that is asked further on. -/
theorem list_dialogue (requests : List StackRequest) :
    let d := dialogue ask empty requests
    let d' := dialogue FrameList.ask .empty requests
    d.1 = d'.1 ∧ d.2.frames = d'.2.addresses ∧ d.2.depth = d'.2.addresses.length ∧
    (∀ r f, (d.2.ask r).1 = .error f → (d.2.ask r).2 = d.2) ∧
    ∀ t, d.2.Alike t → ∀ further,
      (dialogue ask t further).1 = (dialogue ask d.2 further).1 ∧
        (dialogue ask t further).2.frames = (dialogue ask d.2 further).2.frames := by
  intro d d'
  have hsame : d' = (d.1, d.2.list) := list_view.dialogue_eq requests (s := empty) trivial
  rw [hsame]
  refine ⟨rfl, rfl, d.2.length_frames.symm, fun r f => ask_of_error, fun t ht further => ?_⟩
  have htwin : dialogue FrameList.ask t.list further = _ := list_view.dialogue_eq further trivial
  rw [ht.list_eq, list_view.dialogue_eq further trivial] at htwin
  obtain ⟨hreplies, hleft⟩ := Prod.mk.inj htwin
  exact ⟨hreplies.symm, congrArg FrameList.addresses hleft.symm⟩

/-- The address that was popped stays in its slot; another stack has other slots there, and both are
filled up and popped alike. -/
theorem list_dialogue_slots :
    let d := dialogue ask empty [.push 0x12345, .push (-1), .pop]
    let t : CallStack := { slots := Vector.replicate 16 0x2345, depth := 1 }
    let further := List.replicate 16 (.push 0x300) ++ [.pop, .pop, .depth]
    d.1 = [.ok .done, .ok .done, .ok (.address 0xFFFF)] ∧ d.2.Alike t ∧
      (dialogue ask t further).1 = (dialogue ask d.2 further).1 := by
  intro d t further
  have halike : d.2.Alike t := by
    refine ⟨rfl, fun k h hk => ?_⟩
    obtain rfl : k = 0 := Nat.lt_one_iff.mp hk
    rfl
  exact ⟨rfl, halike, ((list_dialogue _).2.2.2.2 t halike further).1⟩

end CallStack

end Chip8
