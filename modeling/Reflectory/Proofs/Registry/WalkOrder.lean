/-
What a walk settles, and which links it drops.

`Trail.Valid` says how a trail may grow: a link is dropped only between types
that are not settled, and a type is settled once all its links are dropped or
lead to settled types. `Descent.Invariant` ties the stack of the loop to its
trail; `Invariant.move` shows that one turn keeps it, `Invariant.runs` that any
number of turns does. Therefore, on every graph:

* `walk_valid`, `mem_settled_walk`: the walk has a valid trail, and settles
  exactly the types that there are;
* `dropped_closes_cycle`: a link is dropped only if its base already leads back
  to its type along links that are kept.
-/

import Reflectory.Proofs.Registry.Descent

namespace Reflectory

open Relation

/-! ### Valid trails -/

namespace Trail

/-- How a trail may grow. -/
inductive Valid (targets : TypeId → List BaseTarget) : Trail → Prop where
  | start : Valid targets {}
  /-- A link between types that are not settled is dropped, once. -/
  | drop {t : Trail} {x base : TypeId} {i : Nat} :
      Valid targets t → LeadsTo targets x i base → x ∉ t.settled → base ∉ t.settled →
      .drop x i ∉ t.steps → Valid targets (t.drop x i)
  /-- A type is settled after its bases, as far as no link to them is dropped. -/
  | settle {t : Trail} {x : TypeId} :
      Valid targets t → x ∉ t.settled →
      (∀ i base, LeadsTo targets x i base → .drop x i ∈ t.steps ∨ base ∈ t.settled) →
      Valid targets (t.settle x)

@[simp] theorem settled_drop (t : Trail) (x : TypeId) (i : Nat) :
    (t.drop x i).settled = t.settled := rfl

@[simp] theorem settled_settle (t : Trail) (x : TypeId) :
    (t.settle x).settled = t.settled ++ [x] := rfl

theorem mem_settled_settle {t : Trail} {x y : TypeId} :
    y ∈ (t.settle x).settled ↔ y ∈ t.settled ∨ y = x := by
  simp

theorem drop_mem_drop {t : Trail} {x y : TypeId} {i j : Nat} :
    Step.drop y j ∈ (t.drop x i).steps ↔ Step.drop y j ∈ t.steps ∨ (y = x ∧ j = i) := by
  simp [drop]

@[simp] theorem drop_mem_settle {t : Trail} {x y : TypeId} {j : Nat} :
    Step.drop y j ∈ (t.settle x).steps ↔ Step.drop y j ∈ t.steps := by
  simp [settle]

/-- One type is settled before another. -/
def Before (t : Trail) (base type : TypeId) : Prop :=
  [base, type].Sublist t.settled

theorem Before.settle {t : Trail} {base type : TypeId} (h : t.Before base type) (x : TypeId) :
    (t.settle x).Before base type :=
  h.trans (List.sublist_append_left _ _)

theorem before_settle {t : Trail} {base x : TypeId} (h : base ∈ t.settled) :
    (t.settle x).Before base x :=
  (List.singleton_sublist.mpr h).append (List.Sublist.refl [x])

namespace Valid

variable {targets : TypeId → List BaseTarget} {t : Trail}

/-- No type is settled twice. -/
theorem nodup (valid : t.Valid targets) : t.settled.Nodup := by
  induction valid with
  | start => exact List.nodup_nil
  | drop _ _ _ _ _ ih => exact ih
  | settle _ fresh _ ih =>
    rw [settled_settle, ← List.concat_eq_append]
    exact ih.concat fresh

/-- What is dropped is a link to a type. -/
theorem leadsTo_of_dropped (valid : t.Valid targets) {x : TypeId} {i : Nat}
    (dropped : .drop x i ∈ t.steps) : ∃ base, LeadsTo targets x i base := by
  induction valid with
  | start => cases dropped
  | drop _ link _ _ _ ih =>
    rcases drop_mem_drop.mp dropped with earlier | ⟨rfl, rfl⟩
    · exact ih earlier
    · exact ⟨_, link⟩
  | settle _ _ _ ih => exact ih (drop_mem_settle.mp dropped)

/-- A link of a settled type is dropped, or its base is settled before. -/
theorem dropped_or_before (valid : t.Valid targets) {x base : TypeId} {i : Nat}
    (settled : x ∈ t.settled) (link : LeadsTo targets x i base) :
    .drop x i ∈ t.steps ∨ t.Before base x := by
  induction valid with
  | start => cases settled
  | drop _ _ _ _ _ ih =>
    rcases ih settled with dropped | before
    · exact .inl (drop_mem_drop.mpr (.inl dropped))
    · exact .inr before
  | @settle t y _ _ bases ih =>
    rcases mem_settled_settle.mp settled with earlier | rfl
    · rcases ih earlier with dropped | before
      · exact .inl (drop_mem_settle.mpr dropped)
      · exact .inr (before.settle y)
    · rcases bases i base link with dropped | done
      · exact .inl (drop_mem_settle.mpr dropped)
      · exact .inr (before_settle done)

/-- A kept link of a settled type leads to a settled type. -/
theorem settled_of_kept (valid : t.Valid targets) {x base : TypeId} {i : Nat}
    (settled : x ∈ t.settled) (link : LeadsTo targets x i base) (kept : .drop x i ∉ t.steps) :
    base ∈ t.settled := by
  have before := (valid.dropped_or_before settled link).resolve_left kept
  exact before.subset List.mem_cons_self

end Valid

end Trail

/-! ### What the loop keeps -/

namespace Descent

variable {targets : TypeId → List BaseTarget} {types : List TypeId}

/-- The walk has yet to enter the type, is inside of it, or has settled it. -/
def InSight (s : Descent) (type : TypeId) : Prop :=
  type ∈ s.roots ∨ type ∈ s.inside ∨ type ∈ s.trail.settled

/-- The link at this place of a type is behind the walk. -/
def Passed (s : Descent) (type : TypeId) (place : Nat) : Prop :=
  type ∈ s.trail.settled ∨ ∃ f ∈ s.stack, f.type = type ∧ place < f.next

/-- The walk has gone along a link from a type to its base, and has not dropped
it. -/
def Followed (targets : TypeId → List BaseTarget) (s : Descent) (type base : TypeId) : Prop :=
  ∃ i, LeadsTo targets type i base ∧ s.Passed type i ∧ .drop type i ∉ s.trail.steps

/-- How the stack and the trail of a walk under way fit together. -/
structure Invariant (targets : TypeId → List BaseTarget) (types : List TypeId)
    (s : Descent) : Prop where
  valid : s.trail.Valid targets
  /-- All types in sight are among those that there are. -/
  known : ∀ u, s.InSight u → u ∈ types
  /-- No type stands on the stack twice. -/
  inside_nodup : s.inside.Nodup
  /-- No type on the stack is settled. -/
  inside_unsettled : ∀ u ∈ s.inside, u ∉ s.trail.settled
  /-- Only links behind the walk are dropped. -/
  dropped_passed : ∀ u i, .drop u i ∈ s.trail.steps → s.Passed u i
  /-- A link behind the walk is dropped, or leads to a settled type or further
  up the stack. -/
  behind : ∀ above f below, s.stack = above ++ f :: below → ∀ i < f.next, ∀ base,
    LeadsTo targets f.type i base →
      .drop f.type i ∈ s.trail.steps ∨ base ∈ s.trail.settled ∨ base ∈ above.map Frame.type
  /-- From every type on the stack, links that have been followed lead to the
  types above it. -/
  climb : s.inside.Pairwise fun upper lower => ReflTransGen (Followed targets s) lower upper
  /-- The base of a dropped link leads back to its type. -/
  cycles : ∀ u i base, .drop u i ∈ s.trail.steps → LeadsTo targets u i base →
    ReflTransGen (Followed targets s) base u

theorem invariant_start {roots : List TypeId} (known : ∀ u ∈ roots, u ∈ types) :
    Invariant targets types (start roots) where
  valid := .start
  known u h := by
    rcases h with h | h | h
    · exact known u h
    · cases h
    · cases h
  inside_nodup := List.nodup_nil
  inside_unsettled _ h := by cases h
  dropped_passed _ _ h := by cases h
  behind above f below h := by cases above <;> cases h
  climb := List.Pairwise.nil
  cycles _ _ _ h := by cases h

/-! One turn of the loop, part by part. -/

section Turn

variable {s s' : Descent}

/-- What is in sight stays in sight. -/
theorem InSight.move (move : Move targets s s') {u : TypeId} (h : s.InSight u) :
    s'.InSight u := by
  cases move with
  | skipRoot settled =>
    rcases h with root | rest
    · rcases List.mem_cons.mp root with rfl | root
      · exact .inr (.inr settled)
      · exact .inl root
    · exact .inr rest
  | enterRoot =>
    rcases h with root | within | settled
    · rcases List.mem_cons.mp root with rfl | root
      · exact .inr (.inl List.mem_cons_self)
      · exact .inl root
    · cases within
    · exact .inr (.inr settled)
  | settle =>
    rcases h with root | within | settled
    · exact .inl root
    · rcases List.mem_cons.mp within with rfl | within
      · exact .inr (.inr (Trail.mem_settled_settle.mpr (.inr rfl)))
      · exact .inr (.inl within)
    · exact .inr (.inr (Trail.mem_settled_settle.mpr (.inl settled)))
  | pass | drop => exact h
  | enter => exact h.imp_right (Or.imp_left (List.mem_cons_of_mem _))

/-- What is behind the walk stays behind it. -/
theorem Passed.move (move : Move targets s s') {u : TypeId} {i : Nat} (h : s.Passed u i) :
    s'.Passed u i := by
  cases move with
  | skipRoot => exact h
  | enterRoot =>
    rcases h with done | ⟨f, mem, _⟩
    · exact .inl done
    · cases mem
  | settle =>
    rcases h with done | ⟨f, mem, rfl, behind⟩
    · exact .inl (Trail.mem_settled_settle.mpr (.inl done))
    · rcases List.mem_cons.mp mem with rfl | mem
      · exact .inl (Trail.mem_settled_settle.mpr (.inr rfl))
      · exact .inr ⟨f, mem, rfl, behind⟩
  | pass | drop =>
    rcases h with done | ⟨f, mem, rfl, behind⟩
    · exact .inl done
    · rcases List.mem_cons.mp mem with rfl | mem
      · exact .inr ⟨_, List.mem_cons_self, rfl, Nat.lt_succ_of_lt behind⟩
      · exact .inr ⟨f, List.mem_cons_of_mem _ mem, rfl, behind⟩
  | enter =>
    rcases h with done | ⟨f, mem, rfl, behind⟩
    · exact .inl done
    · rcases List.mem_cons.mp mem with rfl | mem
      · exact .inr ⟨_, List.mem_cons_of_mem _ List.mem_cons_self, rfl, Nat.lt_succ_of_lt behind⟩
      · exact .inr ⟨f, List.mem_cons_of_mem _ (List.mem_cons_of_mem _ mem), rfl, behind⟩

/-- The link that comes next is not yet behind the walk. -/
theorem Invariant.not_passed_next {roots : List TypeId} {x : TypeId} {n : Nat}
    {below : List Frame} {t : Trail}
    (inv : Invariant targets types ⟨roots, ⟨x, n⟩ :: below, t⟩) :
    ¬ Passed ⟨roots, ⟨x, n⟩ :: below, t⟩ x n := by
  rintro (done | ⟨f, mem, same, behind⟩)
  · exact inv.inside_unsettled x List.mem_cons_self done
  · rcases List.mem_cons.mp mem with rfl | mem
    · exact Nat.lt_irrefl _ behind
    · have twice := inv.inside_nodup
      rw [inside, List.map_cons, List.nodup_cons] at twice
      exact twice.1 (List.mem_map.mpr ⟨f, mem, same⟩)

/-- The link that comes next is not dropped. -/
theorem Invariant.next_not_dropped {roots : List TypeId} {x : TypeId} {n : Nat}
    {below : List Frame} {t : Trail}
    (inv : Invariant targets types ⟨roots, ⟨x, n⟩ :: below, t⟩) : .drop x n ∉ t.steps :=
  fun dropped => inv.not_passed_next (inv.dropped_passed x n dropped)

/-- A link that has been followed stays followed. -/
theorem Followed.move (inv : Invariant targets types s) (move : Move targets s s')
    {u v : TypeId} (h : Followed targets s u v) : Followed targets s' u v := by
  obtain ⟨i, link, passed, kept⟩ := h
  refine ⟨i, link, passed.move move, ?_⟩
  cases move with
  | skipRoot | enterRoot | pass | enter => exact kept
  | settle => exact fun dropped => kept (Trail.drop_mem_settle.mp dropped)
  | drop =>
    intro dropped
    rcases Trail.drop_mem_drop.mp dropped with earlier | ⟨rfl, rfl⟩
    · exact kept earlier
    · exact inv.not_passed_next passed

/-- A way along followed links stays one. -/
theorem Invariant.way_move (inv : Invariant targets types s) (move : Move targets s s')
    {u v : TypeId} (way : ReflTransGen (Followed targets s) u v) :
    ReflTransGen (Followed targets s') u v :=
  ReflTransGen.mono (fun _ _ followed => Followed.move inv move followed) u v way

theorem Invariant.valid_move (inv : Invariant targets types s) (move : Move targets s s') :
    s'.trail.Valid targets := by
  cases move with
  | skipRoot | enterRoot | pass | enter => exact inv.valid
  | @settle roots x n below t last =>
    refine inv.valid.settle (inv.inside_unsettled x List.mem_cons_self) fun i base link => ?_
    have early : i < n := by
      by_contra late
      have none := List.getElem?_eq_none_iff.mpr
        (Nat.le_trans (List.getElem?_eq_none_iff.mp last) (Nat.le_of_not_lt late))
      exact Option.some_ne_none _ (link.symm.trans none)
    rcases inv.behind [] ⟨x, n⟩ below rfl i early base link with dropped | settled | above
    · exact .inl dropped
    · exact .inr settled
    · cases above
  | @drop _ x _ _ _ _ link unsettled _ =>
    exact inv.valid.drop link (inv.inside_unsettled x List.mem_cons_self) unsettled
      inv.next_not_dropped

theorem Invariant.known_move (into : LeadsInto targets types)
    (inv : Invariant targets types s) (move : Move targets s s') :
    ∀ u, s'.InSight u → u ∈ types := by
  intro u sight
  cases move with
  | skipRoot =>
    exact inv.known u (sight.imp_left (List.mem_cons_of_mem _))
  | enterRoot =>
    rcases sight with root | within | settled
    · exact inv.known u (.inl (List.mem_cons_of_mem _ root))
    · rcases List.mem_singleton.mp within with rfl
      exact inv.known _ (.inl List.mem_cons_self)
    · exact inv.known u (.inr (.inr settled))
  | settle =>
    rcases sight with root | within | settled
    · exact inv.known u (.inl root)
    · exact inv.known u (.inr (.inl (List.mem_cons_of_mem _ within)))
    · rcases Trail.mem_settled_settle.mp settled with earlier | rfl
      · exact inv.known u (.inr (.inr earlier))
      · exact inv.known u (.inr (.inl List.mem_cons_self))
  | pass | drop => exact inv.known u sight
  | @enter _ x base n _ _ link =>
    rcases sight with root | within | settled
    · exact inv.known u (.inl root)
    · rcases List.mem_cons.mp within with rfl | within
      · exact into x n u link
      · exact inv.known u (.inr (.inl within))
    · exact inv.known u (.inr (.inr settled))

theorem Invariant.inside_nodup_move (inv : Invariant targets types s) (move : Move targets s s') :
    s'.inside.Nodup := by
  cases move with
  | skipRoot | pass | drop => exact inv.inside_nodup
  | enterRoot => exact List.nodup_singleton _
  | settle => exact (List.nodup_cons.mp inv.inside_nodup).2
  | enter _ _ without => exact List.nodup_cons.mpr ⟨without, inv.inside_nodup⟩

theorem Invariant.inside_unsettled_move (inv : Invariant targets types s)
    (move : Move targets s s') : ∀ u ∈ s'.inside, u ∉ s'.trail.settled := by
  intro u within settled
  cases move with
  | skipRoot | pass | drop => exact inv.inside_unsettled u within settled
  | enterRoot unsettled =>
    rcases List.mem_singleton.mp within with rfl
    exact unsettled settled
  | settle =>
    rcases Trail.mem_settled_settle.mp settled with earlier | rfl
    · exact inv.inside_unsettled u (List.mem_cons_of_mem _ within) earlier
    · exact (List.nodup_cons.mp inv.inside_nodup).1 within
  | enter _ unsettled =>
    rcases List.mem_cons.mp within with rfl | within
    · exact unsettled settled
    · exact inv.inside_unsettled u within settled

theorem Invariant.dropped_passed_move (inv : Invariant targets types s)
    (move : Move targets s s') : ∀ u i, .drop u i ∈ s'.trail.steps → s'.Passed u i := by
  intro u i dropped
  have turn := move
  cases move with
  | skipRoot | enterRoot | pass | enter => exact (inv.dropped_passed u i dropped).move turn
  | settle => exact (inv.dropped_passed u i (Trail.drop_mem_settle.mp dropped)).move turn
  | drop =>
    rcases Trail.drop_mem_drop.mp dropped with earlier | ⟨rfl, rfl⟩
    · exact (inv.dropped_passed u i earlier).move turn
    · exact .inr ⟨_, List.mem_cons_self, rfl, Nat.lt_succ_self _⟩

/-- What is behind the walk after the link that comes next has been seen to, with
the types that are entered for it on top. -/
theorem Invariant.behind_advance {roots : List TypeId} {x : TypeId} {n : Nat}
    {below : List Frame} {t t' : Trail} (entered : List TypeId)
    (inv : Invariant targets types ⟨roots, ⟨x, n⟩ :: below, t⟩)
    (drops : ∀ u i, .drop u i ∈ t.steps → .drop u i ∈ t'.steps)
    (settled : ∀ u ∈ t.settled, u ∈ t'.settled)
    (next : ∀ base, LeadsTo targets x n base →
      .drop x n ∈ t'.steps ∨ base ∈ t'.settled ∨ base ∈ entered) :
    ∀ (above : List Frame) (f : Frame) (rest : List Frame),
      (⟨x, n + 1⟩ : Frame) :: below = above ++ f :: rest → ∀ i < f.next, ∀ base,
      LeadsTo targets f.type i base →
        .drop f.type i ∈ t'.steps ∨ base ∈ t'.settled ∨
          base ∈ entered ++ above.map Frame.type := by
  intro above f rest split i early base link
  cases above with
  | nil =>
    injection split with top split
    subst top
    rcases Nat.lt_succ_iff_lt_or_eq.mp early with early | rfl
    · rcases inv.behind [] ⟨x, n⟩ below rfl i early base link with dropped | done | above
      · exact .inl (drops x i dropped)
      · exact .inr (.inl (settled base done))
      · cases above
    · exact (next base link).imp_right (Or.imp_right (List.mem_append_left _))
  | cons a above =>
    injection split with top split
    subst top
    rcases inv.behind (⟨x, n⟩ :: above) f rest (by rw [split]; rfl) i early base link with
      dropped | done | above
    · exact .inl (drops f.type i dropped)
    · exact .inr (.inl (settled base done))
    · exact .inr (.inr (List.mem_append_right _ above))

theorem Invariant.behind_move (inv : Invariant targets types s) (move : Move targets s s') :
    ∀ (above : List Frame) (f : Frame) (below : List Frame), s'.stack = above ++ f :: below →
      ∀ i < f.next, ∀ base, LeadsTo targets f.type i base →
        .drop f.type i ∈ s'.trail.steps ∨ base ∈ s'.trail.settled ∨
          base ∈ above.map Frame.type := by
  cases move with
  | skipRoot => exact inv.behind
  | enterRoot =>
    intro above f below split i early
    cases above with
    | nil =>
      injection split with top _
      subst top
      exact absurd early (Nat.not_lt_zero i)
    | cons a above =>
      injection split with _ split
      exact absurd split.symm (List.append_ne_nil_of_right_ne_nil _ (List.cons_ne_nil _ _))
  | @settle roots x n below t =>
    intro above f rest split i early base link
    rcases inv.behind (⟨x, n⟩ :: above) f rest (congrArg (⟨x, n⟩ :: ·) split) i early base link
      with dropped | done | within
    · exact .inl (Trail.drop_mem_settle.mpr dropped)
    · exact .inr (.inl (Trail.mem_settled_settle.mpr (.inl done)))
    · rcases List.mem_cons.mp within with rfl | within
      · exact .inr (.inl (Trail.mem_settled_settle.mpr (.inr rfl)))
      · exact .inr (.inr within)
  | pass link settled =>
    exact inv.behind_advance [] (fun _ _ => id) (fun _ => id) fun base link' =>
      .inr (.inl (settled base (Option.some.inj (link.symm.trans link'))))
  | drop =>
    exact inv.behind_advance [] (fun _ _ h => Trail.drop_mem_drop.mpr (.inl h)) (fun _ => id)
      fun _ _ => .inl (Trail.drop_mem_drop.mpr (.inr ⟨rfl, rfl⟩))
  | @enter roots x base n below t link =>
    intro above f rest split
    cases above with
    | nil =>
      injection split with top _
      subst top
      exact fun i early => absurd early (Nat.not_lt_zero i)
    | cons a above =>
      -- The new frame counts as above the frame that it was entered from.
      injection split with top split
      subst top
      refine inv.behind_advance [base] (fun _ _ => id) (fun _ => id) ?_ above f rest split
      intro base' link'
      rw [link'.unique link]
      exact .inr (.inr List.mem_cons_self)

theorem Invariant.climb_move (inv : Invariant targets types s) (move : Move targets s s') :
    s'.inside.Pairwise fun upper lower => ReflTransGen (Followed targets s') lower upper := by
  have climb := inv.climb.imp fun way => inv.way_move move way
  have turn := move
  cases move with
  | skipRoot | pass | drop => exact climb
  | enterRoot => exact List.pairwise_singleton _ _
  | settle => exact (List.pairwise_cons.mp climb).2
  | @enter roots x base n below t link =>
    refine List.pairwise_cons.mpr ⟨fun lower within => ?_, climb⟩
    have entered : Followed targets ⟨roots, ⟨base, 0⟩ :: ⟨x, n + 1⟩ :: below, t⟩ x base :=
      ⟨n, link, .inr ⟨_, List.mem_cons_of_mem _ List.mem_cons_self, rfl, Nat.lt_succ_self n⟩,
        inv.next_not_dropped⟩
    rcases List.mem_cons.mp within with rfl | within
    · exact .single entered
    · exact ((List.pairwise_cons.mp climb).1 lower within).tail entered

theorem Invariant.cycles_move (inv : Invariant targets types s) (move : Move targets s s') :
    ∀ u i base, .drop u i ∈ s'.trail.steps → LeadsTo targets u i base →
      ReflTransGen (Followed targets s') base u := by
  intro u i base dropped link
  have turn := move
  cases move with
  | skipRoot | enterRoot | pass | enter =>
    exact inv.way_move turn (inv.cycles u i base dropped link)
  | settle =>
    exact inv.way_move turn (inv.cycles u i base (Trail.drop_mem_settle.mp dropped) link)
  | drop link' _ within =>
    rcases Trail.drop_mem_drop.mp dropped with earlier | ⟨rfl, rfl⟩
    · exact inv.way_move turn (inv.cycles u i base earlier link)
    · rw [link'.unique link] at within
      rcases List.mem_cons.mp within with rfl | within
      · exact .refl
      · exact inv.way_move turn ((List.pairwise_cons.mp inv.climb).1 base within)

/-- **One turn of the loop keeps the invariant.** -/
theorem Invariant.move (into : LeadsInto targets types) (inv : Invariant targets types s)
    (move : Move targets s s') : Invariant targets types s' where
  valid := inv.valid_move move
  known := inv.known_move into move
  inside_nodup := inv.inside_nodup_move move
  inside_unsettled := inv.inside_unsettled_move move
  dropped_passed := inv.dropped_passed_move move
  behind := inv.behind_move move
  climb := inv.climb_move move
  cycles := inv.cycles_move move

theorem InSight.runs (runs : Runs targets s s') {u : TypeId} (h : s.InSight u) :
    s'.InSight u := by
  induction runs with
  | refl => exact h
  | tail _ move ih => exact ih.move move

/-- Any number of turns keeps the invariant. -/
theorem Invariant.runs (into : LeadsInto targets types) (inv : Invariant targets types s)
    (runs : Runs targets s s') : Invariant targets types s' := by
  induction runs with
  | refl => exact inv
  | tail _ move ih => exact ih.move into move

end Turn

end Descent

/-! ### The whole walk -/

section Walk

variable {targets : TypeId → List BaseTarget} {types roots : List TypeId}

/-- A link from a type to its base that is not dropped. -/
def Trail.Keeps (targets : TypeId → List BaseTarget) (t : Trail) (type base : TypeId) : Prop :=
  ∃ i, LeadsTo targets type i base ∧ .drop type i ∉ t.steps

/-- What the loop keeps holds of the walk. -/
theorem walk_invariant (into : LeadsInto targets types) (nodup : types.Nodup)
    (known : ∀ u ∈ roots, u ∈ types) :
    Descent.Invariant targets types ⟨[], [], walk targets types roots⟩ :=
  (Descent.invariant_start known).runs into (walk_runs into nodup known)

theorem walk_valid (into : LeadsInto targets types) (nodup : types.Nodup)
    (known : ∀ u ∈ roots, u ∈ types) : (walk targets types roots).Valid targets :=
  (walk_invariant into nodup known).valid

/-- The walk settles every type, if all are among the roots. -/
theorem mem_settled_walk (into : LeadsInto targets types) (nodup : types.Nodup)
    (all : ∀ u, u ∈ roots ↔ u ∈ types) (u : TypeId) :
    u ∈ (walk targets types roots).settled ↔ u ∈ types := by
  have known := fun u => (all u).mp
  constructor
  · intro settled
    exact (walk_invariant into nodup known).known u (.inr (.inr settled))
  · intro mem
    have sight : (Descent.start roots).InSight u := .inl ((all u).mpr mem)
    rcases sight.runs (walk_runs into nodup known) with root | within | settled
    · cases root
    · cases within
    · exact settled

/-- **A dropped link would close a cycle**: its base leads back to its type along
links that are kept. -/
theorem dropped_closes_cycle (into : LeadsInto targets types) (nodup : types.Nodup)
    (known : ∀ u ∈ roots, u ∈ types) {u base : TypeId} {i : Nat}
    (dropped : .drop u i ∈ (walk targets types roots).steps) (link : LeadsTo targets u i base) :
    ReflTransGen ((walk targets types roots).Keeps targets) base u := by
  have way := (walk_invariant into nodup known).cycles u i base dropped link
  refine ReflTransGen.mono (fun v w followed => ?_) base u way
  obtain ⟨j, link', _, kept⟩ := followed
  exact ⟨j, link', kept⟩

end Walk

end Reflectory
