import SyscallFilter.Files.Disk

/-! Replacing a file changes one place of the tree or nothing, whatever the disk does. The temporary
    file stands at a place where nothing was, so removing it gives back the tree as it was. What is
    found on the way of a path are directories, but for the last place; they are directories still
    once a file stands at that place, and so the path leads to the new file.

        tree ──insert──▶ with temporary ──erase──▶ tree ──insert──▶ with target -/

namespace SyscallFilter.Files

open SyscallFilter Output

/-- What follows an action goes on where the action has led. -/
theorem run_bind_of_run {σ α β : Type} {x : StateM σ α} {s s' : σ} {a : α} (h : x.run s = (a, s'))
    (f : α → StateM σ β) : (x >>= f).run s = (f a).run s' := by
  rw [StateT.run_bind, h]
  rfl

theorem run_map_of_run {σ α β : Type} {x : StateM σ α} {s s' : σ} {a : α} (h : x.run s = (a, s'))
    (f : α → β) : (f <$> x).run s = (f a, s') := by
  rw [StateT.run_map, h]
  rfl

section Steps

variable {σ E : Type} {step : StateM σ (Option E)} {s s' : σ} (rest : List (StateM σ (Option E)))

theorem firstFailure_of_some {e : E} (h : step.run s = (some e, s')) :
    (firstFailure (step :: rest)).run s = (some e, s') := by
  rw [firstFailure, run_bind_of_run h]
  rfl

theorem firstFailure_of_none (h : step.run s = (none, s')) :
    (firstFailure (step :: rest)).run s = (firstFailure rest).run s' := by
  rw [firstFailure, run_bind_of_run h]

/-- A step that only reports ends the steps or passes on what it found. -/
theorem firstFailure_cases {answer : Option E} (h : step.run s = (answer, s)) :
    (∃ e, (firstFailure (step :: rest)).run s = (some e, s)) ∨
    (firstFailure (step :: rest)).run s = (firstFailure rest).run s := by
  cases answer with
  | some e => exact Or.inl ⟨e, firstFailure_of_some rest h⟩
  | none => exact Or.inr (firstFailure_of_none rest h)

end Steps

namespace Tree

/-! ### Nodes -/

theorem lookup_node (p : Place) (n : Node) (nodes : List (Place × Node)) (q : Place) :
    ((p, n) :: nodes).lookup q = if q = p then some n else nodes.lookup q := by
  by_cases h : q = p
  · rw [h, List.lookup_cons_self, if_pos rfl]
  · rw [List.lookup_cons, beq_eq_false_iff_ne.mpr h, if_neg h]

theorem lookup_insertNode (p : Place) (n : Node) (q : Place) : ∀ nodes : List (Place × Node),
    (insertNode p n nodes).lookup q = if q = p then some n else nodes.lookup q
  | [] => lookup_node p n [] q
  | (r, m) :: rest => by
    unfold insertNode
    split
    · next hr =>
      rw [lookup_node, lookup_node, hr]
      split
      · rfl
      · rfl
    · next hr =>
      split
      · exact lookup_node p n _ q
      · rw [lookup_node, lookup_node, lookup_insertNode p n q rest]
        by_cases hq : q = p
        · rw [if_neg (fun h => hr (h.symm.trans hq)), if_pos hq, if_pos hq]
        · rw [if_neg hq, if_neg hq]

theorem filter_insertNode (p : Place) (n : Node) : ∀ nodes : List (Place × Node),
    (insertNode p n nodes).filter (fun e => e.1 ≠ p) = nodes.filter fun e => e.1 ≠ p
  | [] => by simp [insertNode]
  | (r, m) :: rest => by
    unfold insertNode
    split
    · next hr => simp [hr]
    · split
      · simp
      · rw [List.filter_cons, List.filter_cons, filter_insertNode p n rest]

theorem insertNode_insertNode (p : Place) (n m : Node) : ∀ nodes : List (Place × Node),
    insertNode p m (insertNode p n nodes) = insertNode p m nodes
  | [] => by simp [insertNode]
  | (r, k) :: rest => by
    unfold insertNode
    by_cases hr : r = p
    · simp [hr, insertNode]
    · by_cases hb : Place.before p r = true
      · simp [hr, hb, insertNode]
      · simp [hr, hb, insertNode, insertNode_insertNode p n m rest]

variable {t : Tree} {p : Place}

theorem get?_insert_self (h : t.holdsBase p = false) (n : Node) :
    (t.insert p n).get? p = some n := by
  simp only [holdsBase] at h
  simp [get?, holdsBase, insert, h, lookup_insertNode]

theorem get?_insert_of_ne {q : Place} (h : q ≠ p) (n : Node) :
    (t.insert p n).get? q = t.get? q := by
  simp [get?, holdsBase, insert, h, lookup_insertNode]

theorem erase_insert (t : Tree) (p : Place) (n : Node) : (t.insert p n).erase p = t.erase p :=
  congrArg (Tree.mk · t.base) (filter_insertNode p n t.nodes)

theorem insert_insert (t : Tree) (p : Place) (n m : Node) :
    (t.insert p n).insert p m = t.insert p m :=
  congrArg (Tree.mk · t.base) (insertNode_insertNode p n m t.nodes)

theorem holdsBase_of_get? (h : t.get? p ≠ some .directory) : t.holdsBase p = false := by
  cases hp : t.holdsBase p with
  | false => rfl
  | true => exact absurd (by simp [get?, hp]) h

theorem holdsBase_of_none (h : t.get? p = none) : t.holdsBase p = false :=
  holdsBase_of_get? (by simp [h])

/-- Taking away what was put where nothing was gives back the tree. -/
theorem erase_insert_of_none (h : t.get? p = none) (n : Node) : (t.insert p n).erase p = t := by
  have hnone : t.nodes.lookup p = none := by simpa [get?, holdsBase_of_none h] using h
  have hself : (t.nodes.filter fun e => e.1 ≠ p) = t.nodes := by
    refine List.filter_eq_self.mpr fun e he => decide_eq_true ?_
    exact Ne.symm (bne_iff_ne.mp (List.lookup_eq_none_iff.mp hnone e he))
  rw [erase_insert]
  exact congrArg (Tree.mk · t.base) hself

/-! ### Paths -/

theorem walk_cons {part : Bytes} {rest : List Bytes} {q : Place} :
    t.walk p (part :: rest) = .ok q ↔ ∃ r, t.follow p part = .ok r ∧ t.walk r rest = .ok q := by
  rw [walk]
  cases t.follow p part with
  | error e => simp
  | ok r => simp

theorem walk_singleton {part : Bytes} {q : Place} :
    t.walk p [part] = .ok q ↔ t.follow p part = .ok q := by
  rw [walk_cons]
  constructor
  · rintro ⟨r, hr, hq⟩
    rw [hr]
    exact hq
  · exact fun h => ⟨q, h, rfl⟩

theorem walk_append {q : Place} : ∀ {p : Place} {front back : List Bytes},
    t.walk p (front ++ back) = .ok q ↔ ∃ r, t.walk p front = .ok r ∧ t.walk r back = .ok q
  | p, [], back => by simp [walk]
  | p, part :: front, back => by
    rw [List.cons_append, walk_cons]
    simp only [walk_cons, walk_append]
    constructor
    · rintro ⟨r, hr, s, hs, hq⟩
      exact ⟨s, ⟨r, hr, hs⟩, hq⟩
    · rintro ⟨s, ⟨r, hr, hs⟩, hq⟩
      exact ⟨r, hr, s, hs, hq⟩

/-- Whether a part of a path names no node of a directory. -/
def IsMove (part : Bytes) : Prop := part = [] ∨ part = here ∨ part = above

instance (part : Bytes) : Decidable (IsMove part) := inferInstanceAs (Decidable (_ ∨ _ ∨ _))

theorem down_eq_ok {name : Bytes} {q : Place} : t.down p name = .ok q ↔
    t.get? p = some .directory ∧ name.length ≤ maxName ∧ p ++ [name] = q := by
  unfold down
  by_cases hd : t.get? p = some .directory
  · by_cases hl : maxName < name.length
    · simp [hd, hl, Nat.not_le_of_lt hl]
    · simp [hd, hl, Nat.le_of_not_lt hl]
  · simp [hd]

/-- A step on the way of a path starts at a directory. -/
theorem follow_eq_ok {part : Bytes} {q : Place} : t.follow p part = .ok q ↔
    t.get? p = some .directory ∧ ((IsMove part ∧ p.next part = q) ∨
      (¬ IsMove part ∧ part.length ≤ maxName ∧ p ++ [part] = q ∧ (t.get? q).isSome = true)) := by
  change (if IsMove part then _ else _) = _ ↔ _
  by_cases hm : IsMove part
  · rw [if_pos hm]
    by_cases hd : t.get? p = some .directory
    · simp [hd, hm]
    · simp [hd]
  · rw [if_neg hm]
    cases hdown : t.down p part with
    | error e =>
      simp only [reduceCtorEq, hm, false_and, not_false_eq_true, true_and, false_or, false_iff]
      rintro ⟨hd, hl, hq, -⟩
      exact absurd (down_eq_ok.mpr ⟨hd, hl, hq⟩) (by simp [hdown])
    | ok r =>
      obtain ⟨hd, hl, rfl⟩ := down_eq_ok.mp hdown
      simp only [hd, hm, hl, false_and, not_false_eq_true, true_and, false_or]
      by_cases hs : (t.get? (p ++ [part])).isSome = true
      · rw [if_pos hs, Except.ok.injEq]
        exact ⟨fun h => ⟨h, h ▸ hs⟩, And.left⟩
      · rw [if_neg hs]
        simp only [reduceCtorEq, false_iff]
        rintro ⟨rfl, h⟩
        exact hs h

/-! ### From one tree to another -/

section Directories

variable {u v : Tree} (hdir : ∀ x, u.get? x = some .directory → v.get? x = some .directory)
include hdir

theorem follow_of_follow {part : Bytes} {q : Place} (h : u.follow p part = .ok q)
    (hq : (v.get? q).isSome = true) : v.follow p part = .ok q := by
  obtain ⟨hd, hmove | ⟨hm, hl, he, -⟩⟩ := follow_eq_ok.mp h
  · exact follow_eq_ok.mpr ⟨hdir p hd, Or.inl hmove⟩
  · exact follow_eq_ok.mpr ⟨hdir p hd, Or.inr ⟨hm, hl, he, hq⟩⟩

/-- Where the directories of a tree are directories still, a walk leads to the same place, if there
    is anything. -/
theorem walk_of_walk {q : Place} (hq : (v.get? q).isSome = true) :
    ∀ {p : Place} {ps : List Bytes}, u.walk p ps = .ok q → v.walk p ps = .ok q
  | _, [], h => h
  | _, part :: rest, h => by
    obtain ⟨r, hr, hrest⟩ := walk_cons.mp h
    have hsome : (v.get? r).isSome = true := by
      cases rest with
      | nil =>
        obtain rfl : r = q := Except.ok.inj hrest
        exact hq
      | cons part' rest' =>
        -- The walk goes on from this place, so it is a directory.
        obtain ⟨_, hr', -⟩ := walk_cons.mp hrest
        rw [hdir r (follow_eq_ok.mp hr').1]
        rfl
    exact walk_cons.mpr ⟨r, follow_of_follow hdir hr hsome, walk_of_walk hq hrest⟩

end Directories

/-- Whether a path leads to a place in every tree that keeps the base and the directories of a tree
    and has something at the place. -/
def LeadsTo (u : Tree) (path : Bytes) (q : Place) : Prop :=
  ∀ v : Tree, v.base = u.base → (∀ x, u.get? x = some .directory → v.get? x = some .directory) →
    (v.get? q).isSome = true → v.locate path = .ok q

theorem leadsTo_of_locate {u : Tree} {path : Bytes} {q : Place} (h : u.locate path = .ok q) :
    u.LeadsTo path q := by
  intro v hbase hdir hq
  unfold locate start at h ⊢
  rw [hbase]
  cases hc : checkPath path with
  | error e => simp [hc] at h
  | ok =>
    simp only [hc] at h ⊢
    exact walk_of_walk hdir hq h

theorem parts_ne_nil (path : Bytes) : parts path ≠ [] := by
  cases path with
  | nil => exact List.cons_ne_nil _ _
  | cons b rest =>
    change addByte b (parts rest) ≠ []
    unfold addByte
    split
    · exact List.cons_ne_nil _ _
    · split
      · exact List.cons_ne_nil _ _
      · exact List.cons_ne_nil _ _

/-- A path that leads nowhere, though its file has a place, lacks nothing but the file. -/
theorem leadsTo_of_placeFor {u : Tree} {path : Bytes} {q : Place}
    (hlocate : u.locate path = .error .notFound) (h : u.placeFor path = .ok q) :
    u.get? q = none ∧ u.LeadsTo path q := by
  have hparts : (parts path).dropLast ++ [(parts path).getLastD []] = parts path := by
    rw [List.getLastD_eq_getLast?, List.getLast?_eq_some_getLast (parts_ne_nil path),
      Option.getD_some, List.dropLast_concat_getLast]
  unfold LeadsTo
  unfold locate at hlocate ⊢
  unfold placeFor at h
  generalize (parts path).dropLast = front at hparts h
  generalize (parts path).getLastD [] = name at hparts h
  cases hc : checkPath path with
  | error e => simp [hc] at h
  | ok =>
    simp only [hc] at hlocate h ⊢
    rw [← hparts] at hlocate ⊢
    cases hw : u.walk (u.start path) front with
    | error e => simp [hw] at h
    | ok p =>
      simp only [hw] at h
      obtain ⟨hd, hl, rfl⟩ := down_eq_ok.mp h
      have hstep : ∀ r, u.follow p name ≠ .ok r := by
        intro r hr
        have hok := walk_append.mpr ⟨p, hw, walk_singleton.mpr hr⟩
        exact absurd (hlocate.symm.trans hok) (by simp)
      have hmove : ¬ IsMove name := fun hm =>
        hstep _ (follow_eq_ok.mpr ⟨hd, Or.inl ⟨hm, rfl⟩⟩)
      have hnone : u.get? (p ++ [name]) = none := by
        cases hq : u.get? (p ++ [name]) with
        | none => rfl
        | some n =>
          exact absurd (follow_eq_ok.mpr ⟨hd, Or.inr ⟨hmove, hl, rfl, by simp [hq]⟩⟩) (hstep _)
      refine ⟨hnone, fun v hbase hdir hq => ?_⟩
      have hsome : (v.get? p).isSome = true := by simp [hdir p hd]
      have hstart : v.start path = u.start path := by rw [start, start, hbase]
      rw [hstart]
      refine walk_append.mpr ⟨p, walk_of_walk hdir hsome hw, walk_singleton.mpr ?_⟩
      exact follow_eq_ok.mpr ⟨hdir p hd, Or.inr ⟨hmove, hl, rfl, hq⟩⟩

/-- The path of a target leads to its place, which is not a directory. -/
theorem leadsTo_of_targetPlace {u : Tree} {path : Bytes} {q : Place}
    (h : u.targetPlace path = .ok q) : u.get? q ≠ some .directory ∧ u.LeadsTo path q := by
  unfold targetPlace at h
  cases hlocate : u.locate path with
  | ok r =>
    simp only [hlocate] at h
    split at h
    · exact absurd h (by simp)
    · next hne =>
      obtain rfl : r = q := Except.ok.inj h
      exact ⟨hne, leadsTo_of_locate hlocate⟩
  | error e =>
    rw [hlocate] at h
    cases e with
    | notFound =>
      obtain ⟨hnone, hleads⟩ := leadsTo_of_placeFor hlocate h
      exact ⟨by simp [hnone], hleads⟩
    | _ => simp at h

/-- Moving a file that was put where nothing was fails and changes nothing, or puts the file where
    the path leads. -/
theorem move_cases {content path : Bytes} (hnone : t.get? p = none) :
    (∃ cause, (t.insert p (.file content)).move p path =
      (some cause, t.insert p (.file content))) ∨
    ∃ q, (t.insert p (.file content)).move p path = (none, t.insert q (.file content)) ∧
      t.holdsBase q = false ∧ (t.insert q (.file content)).locate path = .ok q := by
  have hself : (t.insert p (.file content)).get? p = some (.file content) :=
    get?_insert_self (holdsBase_of_none hnone) _
  unfold move
  cases htarget : (t.insert p (.file content)).targetPlace path with
  | error cause => exact Or.inl ⟨cause, rfl⟩
  | ok q =>
    obtain ⟨hnodir, hleads⟩ := leadsTo_of_targetPlace htarget
    have hq : (t.insert p (.file content)).holdsBase q = false := holdsBase_of_get? hnodir
    change t.holdsBase q = false at hq
    simp only [hself, erase_insert_of_none hnone]
    refine Or.inr ⟨q, rfl, hq, hleads _ rfl ?_ (by rw [get?_insert_self hq]; rfl)⟩
    intro x hx
    have hxq : x ≠ q := fun h => hnodir (h ▸ hx)
    have hxp : x ≠ p := by
      rintro rfl
      rw [hself] at hx
      exact absurd hx (by simp)
    rw [get?_insert_of_ne hxp] at hx
    rw [get?_insert_of_ne hxq, hx]

end Tree

/-! ### Replacing -/

namespace Disk

variable (d : Disk) (t : Tree)

/-- Making a file fails and changes nothing, or puts an empty file where nothing was. -/
theorem create_cases (path : Bytes) :
    (∃ cause, (d.files.create path).run t = (.error cause, t)) ∨
    ∃ place, t.get? place = none ∧
      (d.files.create path).run t = (.ok ⟨path, place⟩, t.insert place (.file [])) := by
  simp only [files, StateT.run]
  cases d.creating with
  | some cause => exact Or.inl ⟨cause, rfl⟩
  | none =>
    unfold Tree.createFile
    cases t.placeFor path with
    | error cause => exact Or.inl ⟨cause, rfl⟩
    | ok place =>
      cases hget : t.get? place with
      | some n => exact Or.inl ⟨.exists, by simp [hget]⟩
      | none => exact Or.inr ⟨place, hget, by simp [hget]⟩

theorem tryNames_cases (path : Bytes) (tried left : Nat) :
    (∃ e, (d.files.tryNames path tried left).run t = (.error e, t)) ∨
    ∃ temporary place, t.get? place = none ∧ (d.files.tryNames path tried left).run t =
      (.ok (temporary, ⟨temporary, place⟩), t.insert place (.file [])) := by
  induction left generalizing tried with
  | zero => exact Or.inl ⟨_, rfl⟩
  | succ left ih =>
    have hdraw : (d.files.draw tried).run t = (d.number tried, t) := rfl
    rw [FileSystem.tryNames, run_bind_of_run hdraw]
    rcases d.create_cases t (temporaryPath path (d.number tried)) with
      ⟨cause, hcreate⟩ | ⟨place, hnone, hcreate⟩
    · rw [run_bind_of_run hcreate]
      cases cause with
      | «exists» => exact ih (tried + 1)
      | _ => exact Or.inl ⟨_, rfl⟩
    · rw [run_bind_of_run hcreate]
      exact Or.inr ⟨_, place, hnone, rfl⟩

theorem createTemporary_cases (path : Bytes) :
    (∃ e, (d.files.createTemporary path).run t = (.error e, t)) ∨
    ∃ temporary place, t.get? place = none ∧ (d.files.createTemporary path).run t =
      (.ok (temporary, ⟨temporary, place⟩), t.insert place (.file [])) := by
  unfold FileSystem.createTemporary
  split
  · exact Or.inl ⟨_, rfl⟩
  · exact d.tryNames_cases t path 0 maxAttempts

variable {t} {temporary : Bytes} {place : Place} (hnone : t.get? place = none)
include hnone

theorem rename_cases (path content : Bytes) :
    (∃ cause, (d.files.rename ⟨temporary, place⟩ path).run (t.insert place (.file content)) =
      (some cause, t.insert place (.file content))) ∨
    ∃ q, (d.files.rename ⟨temporary, place⟩ path).run (t.insert place (.file content)) =
        (none, t.insert q (.file content)) ∧
      t.holdsBase q = false ∧ (t.insert q (.file content)).locate path = .ok q := by
  simp only [files, StateT.run]
  cases d.moving with
  | some cause => exact Or.inl ⟨cause, rfl⟩
  | none => exact Tree.move_cases hnone

/-- Filling a temporary file fails and leaves the file, or puts all that was written where the path
    leads. -/
theorem fill_cases (path : Bytes) (w : Writer) :
    (∃ e content, (d.files.fill path w temporary ⟨temporary, place⟩).run
      (t.insert place (.file [])) = (some e, t.insert place (.file content))) ∨
    ∃ sink q, w (d.sink temporary) = (none, sink) ∧
      (d.files.fill path w temporary ⟨temporary, place⟩).run (t.insert place (.file [])) =
        (none, t.insert q (.file sink.bytes)) ∧
      t.holdsBase q = false ∧ (t.insert q (.file sink.bytes)).locate path = .ok q := by
  rcases hw : w (d.sink temporary) with ⟨loss, sink⟩
  have hwrite : (d.files.write ⟨temporary, place⟩ w).run (t.insert place (.file [])) =
      (loss, t.insert place (.file sink.bytes)) := by
    simp only [files, StateT.run, hw, Tree.insert_insert]
  have hsync : (d.files.sync ⟨temporary, place⟩).run (t.insert place (.file sink.bytes)) =
      (d.syncing, t.insert place (.file sink.bytes)) := rfl
  have hgrant : (d.files.grant ⟨temporary, place⟩).run (t.insert place (.file sink.bytes)) =
      (d.granting, t.insert place (.file sink.bytes)) := rfl
  have hclose : (d.files.close ⟨temporary, place⟩).run (t.insert place (.file sink.bytes)) =
      (d.sealing, t.insert place (.file sink.bytes)) := rfl
  unfold FileSystem.fill
  cases loss with
  | some loss => exact Or.inl ⟨_, _, firstFailure_of_some _ (run_map_of_run hwrite _)⟩
  | none =>
    rw [firstFailure_of_none _ (run_map_of_run hwrite _)]
    -- The steps between the first and the last leave the temporary file as it is.
    rcases firstFailure_cases _ (run_map_of_run hsync _) with ⟨e, h⟩ | h
    · exact Or.inl ⟨e, _, h⟩
    rw [h]
    rcases firstFailure_cases _ (run_map_of_run hgrant _) with ⟨e, h⟩ | h
    · exact Or.inl ⟨e, _, h⟩
    rw [h]
    rcases firstFailure_cases _ (run_map_of_run hclose _) with ⟨e, h⟩ | h
    · exact Or.inl ⟨e, _, h⟩
    rw [h]
    rcases d.rename_cases hnone path sink.bytes with ⟨cause, hrename⟩ | ⟨q, hrename, hq, hlocate⟩
    · exact Or.inl ⟨_, _, firstFailure_of_some _ (run_map_of_run hrename _)⟩
    · exact Or.inr ⟨sink, q, rfl, firstFailure_of_none _ (run_map_of_run hrename _), hq, hlocate⟩

omit hnone

/-- Replacing a file fails and changes nothing, or puts all that was written where the path leads.
    -/
theorem replace_cases (t : Tree) (path : Bytes) (w : Writer) :
    (∃ e, d.replace t path w = (some e, t)) ∨
    ∃ temporary sink q, w (d.sink temporary) = (none, sink) ∧
      d.replace t path w = (none, t.insert q (.file sink.bytes)) ∧
      t.holdsBase q = false ∧ (t.insert q (.file sink.bytes)).locate path = .ok q := by
  unfold replace FileSystem.replace
  rcases d.createTemporary_cases t path with ⟨e, hcreate⟩ | ⟨temporary, place, hnone, hcreate⟩
  · rw [run_bind_of_run hcreate]
    exact Or.inl ⟨e, rfl⟩
  · rw [run_bind_of_run hcreate]
    rcases d.fill_cases hnone path w with
      ⟨e, content, hfill⟩ | ⟨sink, q, hw, hfill, hq, hlocate⟩
    · have hremove : (d.files.remove ⟨temporary, place⟩).run (t.insert place (.file content)) =
          ((), t) := congrArg (Prod.mk ()) (Tree.erase_insert_of_none hnone _)
      refine Or.inl ⟨e, ?_⟩
      simp only
      rw [run_bind_of_run hfill]
      exact run_bind_of_run hremove _
    · refine Or.inr ⟨temporary, sink, q, hw, ?_, hq, hlocate⟩
      simp only
      rw [run_bind_of_run hfill]
      rfl

end Disk

end SyscallFilter.Files
