import Mathlib

/-!
# Proofs/Dialogue — an object as it is known by its replies

An object is asked one thing after another; each request has a reply and leaves the object perhaps
changed.  A `View` shows one kind of object as another that gives the same replies.  It is given
request by request, and then whole dialogues are the same (`View.dialogue_eq`).  An object that no
request changes is known by one reply for each (`dialogue_eq_map`).  Requests that leave the object
alone may be put anywhere among others (`dialogue_askAmong`), and requests that change places with
each other may be made in any order (`dialogue_perm`).
-/

namespace Chip8

section Dialogue

variable {σ τ ρ α : Type}

/-- The replies to a row of requests, and the object that the last one leaves. -/
def dialogue (ask : σ → ρ → α × σ) : σ → List ρ → List α × σ
  | s, [] => ([], s)
  | s, r :: rest =>
    ((ask s r).1 :: (dialogue ask (ask s r).2 rest).1, (dialogue ask (ask s r).2 rest).2)

theorem dialogue_append (ask : σ → ρ → α × σ) (rs : List ρ) : ∀ (s : σ) (rs' : List ρ),
    dialogue ask s (rs ++ rs') =
      ((dialogue ask s rs).1 ++ (dialogue ask (dialogue ask s rs).2 rs').1,
        (dialogue ask (dialogue ask s rs).2 rs').2) := by
  induction rs with
  | nil => exact fun _ _ => rfl
  | cons r rs ih =>
    intro s rs'
    simp only [List.cons_append, dialogue, ih]

theorem length_dialogue (ask : σ → ρ → α × σ) (rs : List ρ) : ∀ s : σ,
    (dialogue ask s rs).1.length = rs.length := by
  induction rs with
  | nil => exact fun _ => rfl
  | cons r rs ih => exact fun s => congrArg Nat.succ (ih (ask s r).2)

/-- Each reply is that of the object which the requests before it have left. -/
theorem reply_dialogue (ask : σ → ρ → α × σ) (s : σ) (rs : List ρ) (r : ρ) (rs' : List ρ) :
    (dialogue ask s (rs ++ r :: rs')).1[rs.length]? =
      some (ask (dialogue ask s rs).2 r).1 := by
  rw [dialogue_append, ← length_dialogue ask rs s, List.getElem?_append_right (le_refl _),
    Nat.sub_self]
  rfl

theorem left_dialogue (ask : σ → ρ → α × σ) (rs : List ρ) : ∀ s : σ,
    (dialogue ask s rs).2 = rs.foldl (fun s r => (ask s r).2) s := by
  induction rs with
  | nil => exact fun _ => rfl
  | cons r rs ih => exact fun s => ih (ask s r).2

/-- **Requests that change places leave the same object**, in whatever order they are made. -/
theorem dialogue_perm {ask : σ → ρ → α × σ}
    (h : ∀ s r r', (ask (ask s r).2 r').2 = (ask (ask s r').2 r).2) {rs rs' : List ρ}
    (hp : rs.Perm rs') (s : σ) : (dialogue ask s rs).2 = (dialogue ask s rs').2 := by
  rw [left_dialogue, left_dialogue]
  exact hp.foldl_eq' (fun r _ r' _ s => h s r r') s

/-- What every request keeps, a dialogue keeps. -/
theorem dialogue_induct {ask : σ → ρ → α × σ} {P : σ → Prop}
    (h : ∀ s r, P s → P (ask s r).2) (rs : List ρ) : ∀ {s : σ}, P s → P (dialogue ask s rs).2 := by
  induction rs with
  | nil => exact fun hs => hs
  | cons r rs ih => exact fun hs => ih (h _ r hs)

/-- An object that no request changes gives each request one reply, wherever it stands. -/
theorem dialogue_eq_map {ask : σ → ρ → α × σ} {s : σ} {reply : ρ → α}
    (h : ∀ r, ask s r = (reply r, s)) (rs : List ρ) : dialogue ask s rs = (rs.map reply, s) := by
  induction rs with
  | nil => rfl
  | cons r rs ih => simp only [dialogue, h, ih, List.map_cons]

/-- A view of the objects with a property, through which every request has the same reply. -/
structure View (ask : σ → ρ → α × σ) (ask' : τ → ρ → α × τ) (P : σ → Prop) (see : σ → τ) :
    Prop where
  keeps : ∀ s r, P s → P (ask s r).2
  same : ∀ s r, P s → ask' (see s) r = ((ask s r).1, see (ask s r).2)

/-- **Through a view every dialogue is the same**, and it leaves what the view shows of the object
that the other leaves. -/
theorem View.dialogue_eq {ask : σ → ρ → α × σ} {ask' : τ → ρ → α × τ} {P : σ → Prop}
    {see : σ → τ} (v : View ask ask' P see) (rs : List ρ) : ∀ {s : σ}, P s →
    dialogue ask' (see s) rs = ((dialogue ask s rs).1, see (dialogue ask s rs).2) := by
  induction rs with
  | nil => exact fun _ => rfl
  | cons r rs ih =>
    intro s hs
    simp only [dialogue, v.same s r hs, ih (v.keeps s r hs)]

/-! ## Requests that leave the object alone -/

variable {ρ' β : Type}

/-- Requests of two kinds, each with its own replies. -/
def askAmong (ask : σ → ρ → α × σ) (look : σ → ρ' → β × σ) (s : σ) : ρ ⊕ ρ' → (α ⊕ β) × σ
  | .inl r => (.inl (ask s r).1, (ask s r).2)
  | .inr r => (.inr (look s r).1, (look s r).2)

/-- **Requests that leave the object as it was may be put among others**: the replies to the others
are the same, and so is the object behind them. -/
theorem dialogue_askAmong {ask : σ → ρ → α × σ} {look : σ → ρ' → β × σ}
    (hlook : ∀ s r, (look s r).2 = s) (rs : List (ρ ⊕ ρ')) : ∀ s : σ,
    (dialogue (askAmong ask look) s rs).1.filterMap Sum.getLeft? =
        (dialogue ask s (rs.filterMap Sum.getLeft?)).1 ∧
      (dialogue (askAmong ask look) s rs).2 =
        (dialogue ask s (rs.filterMap Sum.getLeft?)).2 := by
  induction rs with
  | nil => exact fun _ => ⟨rfl, rfl⟩
  | cons r rs ih =>
    intro s
    cases r with
    | inl r =>
      obtain ⟨hreplies, hleft⟩ := ih (ask s r).2
      exact ⟨congrArg (List.cons _) hreplies, hleft⟩
    | inr r =>
      simp only [dialogue, askAmong, hlook]
      exact ih s

end Dialogue

end Chip8
