import SyscallFilter.Proofs.Command
import SyscallFilter.Proofs.SideBySide

/-! A write to the error stream that fails cannot corrupt or fake a result. A run whose stream takes
    everything is compared with a run whose stream refuses one write. All that the command writes
    there is known: the usage, or lines of the log around the listing.

        log … log  listing … listing  log          usage  usage

    Up to the refused write the two runs do the same. A line of the log and a part of the usage are
    written without looking at what becomes of them. Only the listing goes through a buffer that
    keeps the first loss, so a refused piece of it ends the run with a failure, before the output is
    touched. -/

namespace SyscallFilter.Tool.Compiler

open SyscallFilter Output Files Policy

/-! ### What a run writes -/

/-- A write to the error stream. -/
inductive Diagnostic where
  | usage (text : Bytes)
  | log (entry : Log.Entry)
  | listing (piece : Bytes)

namespace Diagnostic

/-- The bytes that are written. -/
def text : Diagnostic → Bytes
  | .usage text => text
  | .log entry => entry.line
  | .listing piece => piece

/-- Whether a part of the listing is written. -/
def isListing : Diagnostic → Bool
  | .usage _ => false
  | .log _ => false
  | .listing _ => true

end Diagnostic

/-- The writes for entries of the log. -/
def logged (o : Options) (entries : List Log.Entry) : List Diagnostic :=
  (Log.shown o.threshold entries).map .log

/-- The writes up to the compilation or the failure that there is instead. -/
def preparing (o : Options) (input : Bytes) (d : Disk) (t : Tree) : List Diagnostic :=
  match d.readFile t input with
  | .error _ => []
  | .ok r =>
    logged o (reportOf o input r).log ++
      match (reportOf o input r).outcome, r.closing with
      | .ok c, none => logged o [statsEntry input c.stats] ++ c.listingPieces.map .listing
      | _, _ => []

/-- How a run ends: with a status, a tree and a last entry of the log. -/
structure Ending where
  status : Nat
  tree : Tree
  entry : Log.Entry

/-- The ending of a run that has come to a compilation or to a failure. -/
def ending (output : Bytes) (d : Disk) (t : Tree) : Except Failure Compilation → Ending
  | .error e => ⟨1, t, failureEntry e⟩
  | .ok c =>
    match d.replace t output c.writeBytecode with
    | (some e, tree) => ⟨1, tree, failureEntry (.output e)⟩
    | (none, tree) => ⟨0, tree, wroteEntry output⟩

/-- What the input file comes to, with an error stream: a compilation or a failure, and the stream
    behind it. -/
def prepared (o : Options) (input : Bytes) (d : Disk) (t : Tree) (errors : Sink) :
    Except Failure Compilation × Sink :=
  let after := (Surroundings.system.prepareFile o input).run ⟨t, d, errors⟩
  (after.1, after.2.errors)

/-- All writes of a run to an error stream that takes everything, in order. -/
def diagnostics (arguments : List Bytes) (d : Disk) (t : Tree) : List Diagnostic :=
  match Request.ofArguments arguments with
  | .help => usage.map .usage
  | .misuse mistake => (misuseTexts mistake).map .usage
  | .compile o input output =>
    preparing o input d t ++ logged o [(ending output d t (prepared o input d t {}).1).entry]

/-- Whether write number `n` is a part of the listing; writes are counted from zero. -/
def carriesListing (ds : List Diagnostic) (n : Nat) : Bool := ds[n]?.any (·.isListing)

theorem isListing_logged (o : Options) (entries : List Log.Entry) :
    ∀ d ∈ logged o entries, d.isListing = false := by
  intro d hd
  obtain ⟨entry, -, rfl⟩ := List.mem_map.mp hd
  rfl

theorem lt_length_of_carriesListing {ds : List Diagnostic} {n : Nat}
    (h : carriesListing ds n = true) : n < ds.length := by
  rcases Nat.lt_or_ge n ds.length with hn | hn
  · exact hn
  · rw [carriesListing, List.getElem?_eq_none hn] at h
    cases h

theorem carriesListing_eq_false {ds : List Diagnostic} (h : ∀ d ∈ ds, d.isListing = false)
    (n : Nat) : carriesListing ds n = false := by
  unfold carriesListing
  cases hd : ds[n]? with
  | none => rfl
  | some d => exact h d (List.mem_of_getElem? hd)

theorem carriesListing_append {ds more : List Diagnostic} (h : ∀ d ∈ more, d.isListing = false)
    (n : Nat) : carriesListing (ds ++ more) n = carriesListing ds n := by
  have hmore := carriesListing_eq_false h (n - ds.length)
  unfold carriesListing at hmore ⊢
  rw [List.getElem?_append]
  split
  · rfl
  · next hn => rw [hmore, List.getElem?_eq_none (Nat.le_of_not_lt hn)]; rfl

theorem carriesListing_listing {ds : List Diagnostic} (h : ∀ d ∈ ds, d.isListing = false)
    (pieces : List Bytes) (n : Nat) :
    carriesListing (ds ++ pieces.map .listing) n = true ↔
      ds.length ≤ n ∧ n < ds.length + pieces.length := by
  have hds := carriesListing_eq_false h n
  unfold carriesListing at hds ⊢
  rw [List.getElem?_append]
  split
  · next hn =>
    rw [hds]
    exact iff_of_false (by simp) (by omega)
  · next hn =>
    rw [List.getElem?_map, Option.any_map]
    rcases Nat.lt_or_ge (n - ds.length) pieces.length with hlt | hge
    · rw [List.getElem?_eq_getElem hlt]
      exact iff_of_true rfl (by omega)
    · rw [List.getElem?_eq_none hge]
      exact iff_of_false (by simp) (by omega)

/-! ### Two runs -/

theorem postLog_eq (o : Options) (entries : List Log.Entry) (s : Sink) :
    postLog o.threshold entries s = postAll ((logged o entries).map (·.text)) s := by
  simp only [postLog, postAll, logged, List.map_map, List.foldl_map]
  rfl

/-- The streams of two runs, of which the first takes everything and has taken `ds`, and the second
    refuses write number `n`. -/
structure Wrote (n : Nat) (ds : List Diagnostic) (s s' : Sink) : Prop where
  pieces : s.pieces = (ds.map (·.text)).reverse
  beside : s.Beside n s'

section Wrote

variable {n : Nat} {ds : List Diagnostic} {s s' : Sink} (h : Wrote n ds s s')
include h

theorem Wrote.length : s.pieces.length = ds.length := by
  rw [h.pieces, List.length_reverse, List.length_map]

theorem Wrote.post (d : Diagnostic) : Wrote n (ds ++ [d]) (s.post d.text) (s'.post d.text) := by
  refine ⟨?_, (h.beside.write d.text).1⟩
  rw [Sink.post, Sink.write_unlimited h.beside.unlimited]
  simp [h.pieces]

theorem Wrote.posts (more : List Diagnostic) :
    Wrote n (ds ++ more) (postAll (more.map (·.text)) s) (postAll (more.map (·.text)) s') := by
  induction more generalizing ds s s' with
  | nil =>
    rw [List.append_nil]
    exact h
  | cons d more ih =>
    have hmore := ih (h.post d)
    rw [List.append_assoc] at hmore
    exact hmore

theorem Wrote.postLog (o : Options) (entries : List Log.Entry) :
    Wrote n (ds ++ logged o entries) (postLog o.threshold entries s)
      (postLog o.threshold entries s') := by
  rw [postLog_eq, postLog_eq]
  exact h.posts (logged o entries)

theorem Wrote.writeListing (c : Compilation) :
    Wrote n (ds ++ c.listingPieces.map .listing) (c.writeListing s).2 (c.writeListing s').2 := by
  have htext : (c.listingPieces.map Diagnostic.listing).map (·.text) = c.listingPieces := by
    rw [List.map_map]
    exact List.map_id _
  refine ⟨?_, (c.writeListing_beside h.beside).1⟩
  rw [c.pieces_writeListing h.beside.unlimited, h.pieces, List.map_append, List.reverse_append,
    htext]

/-- Behind the refused write, the runs may write different things. -/
theorem Wrote.posts_apart (hn : n < ds.length) (more more' : List Diagnostic) :
    Wrote n (ds ++ more) (postAll (more.map (·.text)) s) (postAll (more'.map (·.text)) s') := by
  induction more' generalizing s' with
  | nil =>
    have hmore := h.posts more
    have hnew : (postAll (more.map (·.text)) s).pieces =
        (more.map (·.text)).reverse ++ s.pieces := by
      rw [hmore.pieces, h.pieces, List.map_append, List.reverse_append]
    exact ⟨hmore.pieces, h.beside.extend (h.length ▸ hn) hmore.beside.unlimited hnew⟩
  | cons d more' ih =>
    exact ih ⟨h.pieces, h.beside.write_right (h.length ▸ hn) d.text⟩

end Wrote

/-- Two runs come to the same compilation or failure, unless the refused write is a part of the
    listing; then the second run comes to a failure. -/
theorem prepared_refusing (o : Options) (input : Bytes) (d : Disk) (t : Tree) (n : Nat)
    (loss : Loss) :
    Wrote n (preparing o input d t) (prepared o input d t {}).2
      (prepared o input d t { capacity := .refusing n loss }).2 ∧
    (carriesListing (preparing o input d t) n = true →
      ∃ e, (prepared o input d t { capacity := .refusing n loss }).1 = .error e) ∧
    (carriesListing (preparing o input d t) n = false →
      (prepared o input d t { capacity := .refusing n loss }).1 =
        (prepared o input d t {}).1) := by
  have hstart : Wrote n [] {} { capacity := .refusing n loss } := ⟨rfl, Sink.beside_empty n loss⟩
  unfold preparing prepared
  cases hfile : d.readFile t input with
  | error cause =>
    simp only [prepareFile_of_error hfile]
    exact ⟨hstart, fun hc => absurd hc (by simp [carriesListing]), fun _ => trivial⟩
  | ok r =>
    have hlog := hstart.postLog o (reportOf o input r).log
    rw [List.nil_append] at hlog
    have hnone := carriesListing_eq_false (isListing_logged o (reportOf o input r).log) n
    simp only [prepareFile_of_ok hfile]
    cases hc : (reportOf o input r).outcome with
    | error e =>
      simp only [prepare_of_error _ hc, List.append_nil]
      exact ⟨hlog, fun hcarries => absurd (hnone.symm.trans hcarries) Bool.false_ne_true,
        fun _ => trivial⟩
    | ok c =>
      cases hclosing : r.closing with
      | some cause =>
        simp only [prepare_of_closing _ hc hclosing, List.append_nil]
        exact ⟨hlog, fun hcarries => absurd (hnone.symm.trans hcarries) Bool.false_ne_true,
          fun _ => trivial⟩
      | none =>
        have hstats := hlog.postLog o [statsEntry input c.stats]
        have hquiet : ∀ diagnostic ∈ logged o (reportOf o input r).log ++
            logged o [statsEntry input c.stats], diagnostic.isListing = false :=
          List.forall_mem_append.mpr ⟨isListing_logged o _, isListing_logged o _⟩
        have hcarries := carriesListing_listing hquiet c.listingPieces n
        obtain ⟨-, hrefused, hother⟩ := c.writeListing_beside hstats.beside
        rw [hstats.length, ← hcarries] at hrefused hother
        simp only [prepare_of_ok _ hc hclosing, loggedTo, ← List.append_assoc]
        refine ⟨hstats.writeListing c, fun hlost => ?_, fun hkept => ?_⟩
        · obtain ⟨e, he⟩ := Option.isSome_iff_exists.mp (hrefused hlost)
          exact ⟨.listing e, by rw [he]; rfl⟩
        · rw [hother (Bool.eq_false_iff.mp hkept)]

/-- A run that compiles depends on its error stream only through the compilation or failure that it
    comes to. -/
theorem run_of_compile {arguments : List Bytes} {o : Options} {input output : Bytes}
    (h : Request.ofArguments arguments = .compile o input output) (d : Disk) (t : Tree)
    (errors : Sink) :
    run arguments ⟨t, d, errors⟩ =
      ((ending output d t (prepared o input d t errors).1).status,
        ⟨(ending output d t (prepared o input d t errors).1).tree, d,
          postLog o.threshold [(ending output d t (prepared o input d t errors).1).entry]
            (prepared o input d t errors).2⟩) := by
  unfold run System.command prepared
  simp only [h, System.compileFile, bind_assoc]
  rcases prepareFile_cases ⟨t, d, errors⟩ o input with
    ⟨e, errors', hprepare⟩ | ⟨content, c, errors', -, -, hprepare⟩
  · rw [run_bind_of_run hprepare, hprepare]
    rfl
  · rw [run_bind_of_run hprepare, hprepare]
    simp only [bind_assoc, ending]
    rw [run_bind_of_run (run_replace _ output _)]
    simp only
    rcases d.replace t output c.writeBytecode with ⟨_ | e, tree⟩
    · rfl
    · rfl

/-- The run on a tree with an error stream that takes everything. -/
def calmRun (arguments : List Bytes) (d : Disk) (t : Tree) : Nat × Surroundings :=
  run arguments { tree := t, disk := d }

/-- The run on a tree with an error stream that refuses write number `n`. -/
def disturbedRun (arguments : List Bytes) (d : Disk) (t : Tree) (n : Nat) (loss : Loss) :
    Nat × Surroundings :=
  run arguments { tree := t, disk := d, errors := { capacity := .refusing n loss } }

/-- What a refused write changes: the status and the tree stay those of the calm run, unless a part
    of the listing is refused. -/
structure Disturbed (arguments : List Bytes) (d : Disk) (t : Tree) (n : Nat) (loss : Loss) :
    Prop where
  wrote : Wrote n (diagnostics arguments d t) (calmRun arguments d t).2.errors
    (disturbedRun arguments d t n loss).2.errors
  lost : carriesListing (diagnostics arguments d t) n = true →
    (disturbedRun arguments d t n loss).1 = 1 ∧ (disturbedRun arguments d t n loss).2.tree = t
  kept : carriesListing (diagnostics arguments d t) n = false →
    (disturbedRun arguments d t n loss).1 = (calmRun arguments d t).1 ∧
      (disturbedRun arguments d t n loss).2.tree = (calmRun arguments d t).2.tree

/-- A run that only explains the usage writes no listing. -/
theorem disturbed_of_usage {arguments : List Bytes} {d : Disk} {t : Tree} {n status : Nat}
    {loss : Loss} {texts : List Bytes}
    (hdiagnostics : diagnostics arguments d t = texts.map .usage)
    (hrun : ∀ errors, run arguments ⟨t, d, errors⟩ = (status, ⟨t, d, postAll texts errors⟩)) :
    Disturbed arguments d t n loss := by
  have hstart : Wrote n [] {} { capacity := .refusing n loss } := ⟨rfl, Sink.beside_empty n loss⟩
  have hwrote := hstart.posts (texts.map .usage)
  have htexts : (texts.map Diagnostic.usage).map (·.text) = texts := by
    rw [List.map_map]
    exact List.map_id _
  rw [htexts, List.nil_append, ← hdiagnostics] at hwrote
  have hquiet : carriesListing (diagnostics arguments d t) n = false := by
    refine carriesListing_eq_false (fun diagnostic hmem => ?_) n
    rw [hdiagnostics] at hmem
    obtain ⟨text, -, rfl⟩ := List.mem_map.mp hmem
    rfl
  have hcalm : calmRun arguments d t = _ := hrun {}
  have hdisturbed : disturbedRun arguments d t n loss = _ := hrun { capacity := .refusing n loss }
  refine ⟨?_, fun hcarries => absurd (hquiet.symm.trans hcarries) Bool.false_ne_true, fun _ => ?_⟩
  · rw [hcalm, hdisturbed]
    exact hwrote
  · rw [hcalm, hdisturbed]
    exact ⟨rfl, rfl⟩

theorem disturbed_of_compile {arguments : List Bytes} {o : Options} {input output : Bytes}
    (h : Request.ofArguments arguments = .compile o input output) (d : Disk) (t : Tree) (n : Nat)
    (loss : Loss) :
    Disturbed arguments d t n loss := by
  obtain ⟨hwrote, hlost, hkept⟩ := prepared_refusing o input d t n loss
  have hdiagnostics : diagnostics arguments d t = preparing o input d t ++
      logged o [(ending output d t (prepared o input d t {}).1).entry] := by
    simp only [diagnostics, h]
  have hcarries : carriesListing (diagnostics arguments d t) n =
      carriesListing (preparing o input d t) n := by
    rw [hdiagnostics]
    exact carriesListing_append (isListing_logged o _) n
  have hcalm : calmRun arguments d t = _ := run_of_compile h d t {}
  have hdisturbed : disturbedRun arguments d t n loss = _ :=
    run_of_compile h d t { capacity := .refusing n loss }
  cases hpart : carriesListing (preparing o input d t) n with
  | true =>
    -- The failed run reports its own failure, behind the refused write.
    obtain ⟨e, he⟩ := hlost hpart
    have hn := lt_length_of_carriesListing hpart
    rw [← hcarries] at hpart
    refine ⟨?_, fun _ => ?_, fun hquiet => absurd (hquiet.symm.trans hpart) Bool.false_ne_true⟩
    · rw [hcalm, hdisturbed, hdiagnostics, postLog_eq, postLog_eq]
      exact hwrote.posts_apart hn _ _
    · rw [hdisturbed, he]
      exact ⟨rfl, rfl⟩
  | false =>
    have hsame := hkept hpart
    rw [← hcarries] at hpart
    refine ⟨?_, fun hlisting => absurd (hpart.symm.trans hlisting) Bool.false_ne_true, fun _ => ?_⟩
    · rw [hcalm, hdisturbed, hdiagnostics, hsame]
      exact hwrote.postLog o _
    · rw [hcalm, hdisturbed, hsame]
      exact ⟨rfl, rfl⟩

theorem disturbed (arguments : List Bytes) (d : Disk) (t : Tree) (n : Nat) (loss : Loss) :
    Disturbed arguments d t n loss := by
  cases h : Request.ofArguments arguments with
  | help =>
    have hdiagnostics : diagnostics arguments d t = usage.map .usage := by
      simp only [diagnostics, h]
    exact disturbed_of_usage hdiagnostics fun errors => by simp only [run, System.command, h]; rfl
  | misuse mistake =>
    have hdiagnostics : diagnostics arguments d t = (misuseTexts mistake).map .usage := by
      simp only [diagnostics, h]
    exact disturbed_of_usage hdiagnostics fun errors => by simp only [run, System.command, h]; rfl
  | compile o input output => exact disturbed_of_compile h d t n loss

/-- A refused write to the error stream cannot corrupt or fake a result. The run writes its
    diagnostics in order, and the refused one is number `n` of them. If it is a part of the listing,
    the run fails and leaves the tree as it was. If it is a line of the log or of the usage, or if
    there is no such write, the status and the tree are those of the run that is not disturbed. -/
theorem run_refusing (arguments : List Bytes) (d : Disk) (t : Tree) (n : Nat) (loss : Loss) :
    (calmRun arguments d t).2.errors.pieces.reverse = (diagnostics arguments d t).map (·.text) ∧
    (disturbedRun arguments d t n loss).2.errors.pieces.reverse.take n =
      (calmRun arguments d t).2.errors.pieces.reverse.take n ∧
    ((carriesListing (diagnostics arguments d t) n = true ∧
        (disturbedRun arguments d t n loss).1 = 1 ∧
        (disturbedRun arguments d t n loss).2.tree = t) ∨
      (carriesListing (diagnostics arguments d t) n = false ∧
        (disturbedRun arguments d t n loss).1 = (calmRun arguments d t).1 ∧
        (disturbedRun arguments d t n loss).2.tree = (calmRun arguments d t).2.tree)) := by
  obtain ⟨hwrote, hlost, hkept⟩ := disturbed arguments d t n loss
  refine ⟨?_, hwrote.beside.take_pieces, ?_⟩
  · rw [hwrote.pieces, List.reverse_reverse]
  · cases hpart : carriesListing (diagnostics arguments d t) n with
    | true => exact .inl ⟨rfl, hlost hpart⟩
    | false => exact .inr ⟨rfl, hkept hpart⟩

end SyscallFilter.Tool.Compiler
