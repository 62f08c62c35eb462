import Retint.Proofs.Bundle.Finite
import Retint.Proofs.Bundle.InPlace

/-!
# The search for imports

Files are searched depth first, and a file that has been met is not opened again. That search comes
to an end where there are finitely many files. It comes to a bundle if everything that is
reached is there and no file imports itself, directly or through others; skipping the files that
have been met hides no cycle. What is reported as a cycle is one.

## Main definitions

* `Bundle.IsBundleable` — what it takes to bundle an entry
* `Bundle.Route` — how the search has come to a path
* `Bundle.Fails` — why there is no bundle of an entry

## Main results

* `Bundle.flatten_add` — a limit above the number of files is never reached
* `Bundle.fails_of_bundle` — all that a search without a bundle has come to
* `Bundle.bundle_iff_isBundleable` — when there is a bundle, and what a reported cycle is
-/

namespace Retint.Bundle

open Import Relation

/-- What it takes to bundle an entry: everything that is reached is there, and no file leads back to
itself. -/
structure IsBundleable (source : Source Id) (entry : Path) : Prop where
  canonical : ∃ first, source.canonical entry = .ok first
  readable : ∀ file, Reaches source entry file → ∃ content, source.read file = .ok content
  present : ∀ file path, Reaches source entry file → Wants source file path →
    ∃ next, source.canonical path = .ok next
  acyclic : ∀ file, Reaches source entry file → ¬ TransGen (Imports source) file file

variable {source : Source Id} {limit : Nat} {opened seen seen' files : List Path}
  {entry file path next : Path} {p : Piece} {ps : List Piece} {blocks : List Block} {f : Failure}

/-! ### The limit -/

/-- The limit leaves room for all the files that are not being inlined. -/
structure HasRoom (files : List Path) (limit : Nat) (opened : List Path) : Prop where
  nodup : opened.Nodup
  subset : opened ⊆ files
  lt : files.length < limit + opened.length

theorem HasRoom.nil (h : files.length < limit) : HasRoom files limit [] :=
  ⟨List.nodup_nil, List.nil_subset files, h⟩

theorem HasRoom.ne_zero (h : HasRoom files limit opened) : limit ≠ 0 := by
  have hle := h.nodup.length_le_of_subset h.subset
  have hlt := h.lt
  omega

theorem HasRoom.open (h : HasRoom files (limit + 1) opened) (hfile : file ∈ files)
    (hnew : file ∉ opened) : HasRoom files limit (opened ++ [file]) where
  nodup := by
    refine List.nodup_append.2 ⟨h.nodup, by simp, fun a ha b hb => ?_⟩
    rw [List.mem_singleton.1 hb]
    exact ne_of_mem_of_not_mem ha hnew
  subset := List.append_subset.2 ⟨h.subset, by simpa using hfile⟩
  lt := by
    have hlt := h.lt
    rw [List.length_append, List.length_singleton]
    omega

/-- With room for all files the limit makes no difference. -/
theorem flatten_add (hfiles : source.IsCoveredBy files)
    (hroom : HasRoom files limit opened) (more : Nat) (seen : List Path) (path : Path) :
    flatten source (limit + more) opened seen path = flatten source limit opened seen path := by
  induction limit generalizing opened seen path with
  | zero => exact absurd rfl hroom.ne_zero
  | succ limit ih =>
    rw [Nat.succ_add_eq_add_succ, Nat.add_succ, flatten_succ, flatten_succ]
    cases hpath : source.canonical path with
    | error fault => rfl
    | ok file =>
      dsimp only
      by_cases hopened : file ∈ opened
      · rw [if_pos hopened, if_pos hopened]
      · rw [if_neg hopened, if_neg hopened]
        cases hread : source.read file with
        | error fault => rfl
        | ok content =>
          have hroom' := hroom.open (hfiles path file content hpath hread) hopened
          have hinline : flatten source (limit + more) (opened ++ [file]) =
              flatten source limit (opened ++ [file]) := by
            funext seen path
            exact ih hroom' seen path
          dsimp only
          rw [hinline]

/-! ### Why there is no bundle -/

/-- The search has come to a path: it is the entry, or the file opened last has an import of it. -/
inductive Route (source : Source Id) (entry : Path) : List Path → Path → Prop
  | start : Route source entry [] entry
  | next {opened : List Path} {path file wanted : Path} (h : Route source entry opened path)
      (hpath : source.canonical path = .ok file) (hwants : Wants source file wanted) :
      Route source entry (opened ++ [file]) wanted

theorem Route.reaches (h : Route source entry opened path)
    (hpath : source.canonical path = .ok file) : Reaches source entry file := by
  induction h generalizing file with
  | start => exact ⟨file, hpath, .refl⟩
  | @next opened path' last wanted _ hlast hwants ih =>
    obtain ⟨first, hentry, hreach⟩ := ih hlast
    exact ⟨first, hentry, hreach.tail ⟨wanted, hwants, hpath⟩⟩

/-- The files on the way import one another, from the entry on. -/
theorem Route.isChain (h : Route source entry opened path)
    (hpath : source.canonical path = .ok file) :
    (opened ++ [file]).IsChain (Imports source) ∧
      ∃ first, source.canonical entry = .ok first ∧ (opened ++ [file]).head? = some first := by
  induction h generalizing file with
  | start => exact ⟨.singleton file, file, hpath, rfl⟩
  | @next opened path' last wanted _ hlast hwants ih =>
    obtain ⟨hchain, first, hentry, hfirst⟩ := ih hlast
    refine ⟨List.isChain_append.2 ⟨hchain, .singleton file, fun x hx y hy => ?_⟩, first, hentry, ?_⟩
    · rw [List.getLast?_append, Option.mem_def] at hx
      obtain rfl : last = x := by simpa using hx
      obtain rfl : file = y := by simpa using hy
      exact ⟨wanted, hwants, hpath⟩
    · rw [List.head?_append, hfirst]
      rfl

/-- Why there is no bundle of an entry. -/
inductive Fails (source : Source Id) (entry : Path) : Failure → Prop
  /-- A path that is wanted leads nowhere. -/
  | lost {opened : List Path} {path : Path} {fault : FileFault}
      (hroute : Route source entry opened path) (hpath : source.canonical path = .error fault) :
      Fails source entry (.bundle path fault.message)
  /-- A file that is reached cannot be read. -/
  | unreadable {file : Path} {fault : FileFault} (hreach : Reaches source entry file)
      (hread : source.read file = .error fault) :
      Fails source entry (.bundle file fault.message)
  /-- A file that is being inlined is imported again. -/
  | cycle {opened : List Path} {path file : Path} (hroute : Route source entry opened path)
      (hpath : source.canonical path = .ok file) (hopened : file ∈ opened) :
      Fails source entry (cycle opened file)

/-- If pieces cannot be put together, an import among them has failed. -/
theorem exists_of_expand_eq_error {dir : Path}
    {inline : List Path → Path → Id (Except Failure (Text × List Path))}
    (h : expand inline dir ps seen = .error f) :
    ∃ p ∈ ps, ∃ path seen', importOf? dir p = some path ∧ inline seen' path = .error f := by
  induction ps generalizing seen with
  | nil => cases h
  | cons p ps ih =>
    have hlater : ∀ {seen'}, expand (m := Id) inline dir ps seen' = .error f →
        ∃ q ∈ p :: ps, ∃ path seen',
          importOf? dir q = some path ∧ inline seen' path = .error f := by
      intro seen' hrest
      obtain ⟨q, hq, hfailed⟩ := ih hrest
      exact ⟨q, List.mem_cons_of_mem p hq, hfailed⟩
    have houtcome := expand_outcome inline dir p ps seen
    generalize expand (m := Id) inline dir (p :: ps) seen = r at h houtcome
    cases houtcome with
    | own => cases h
    | ownLost _ hrest =>
      obtain rfl := Except.error.inj h
      exact hlater hrest
    | inlined => cases h
    | inlinedLost _ _ hrest =>
      obtain rfl := Except.error.inj h
      exact hlater hrest
    | @failed path g hpiece hhere =>
      obtain rfl := Except.error.inj h
      exact ⟨p, List.mem_cons_self .., path, seen, hpiece, hhere⟩

theorem fails_of_flatten (hfiles : source.IsCoveredBy files) (hroom : HasRoom files limit opened)
    (hroute : Route source entry opened path)
    (h : flatten source limit opened seen path = .error f) : Fails source entry f := by
  induction limit generalizing opened seen path with
  | zero => exact absurd rfl hroom.ne_zero
  | succ limit ih =>
    have houtcome := flatten_outcome source limit opened seen path
    generalize flatten source (limit + 1) opened seen path = r at h houtcome
    cases houtcome with
    | lost hpath =>
      obtain rfl := Except.error.inj h
      exact .lost hroute hpath
    | cycle hpath hopened =>
      obtain rfl := Except.error.inj h
      exact .cycle hroute hpath hopened
    | again => cases h
    | unreadable hpath _ _ hread =>
      obtain rfl := Except.error.inj h
      exact .unreadable (hroute.reaches hpath) hread
    | @first file content hpath hopened hseen hread =>
      obtain ⟨p, hp, wanted, seen', hpiece, hinline⟩ := exists_of_expand_eq_error h
      have hroom' := hroom.open (hfiles path file content hpath hread) hopened
      exact ih hroom' (hroute.next hpath ⟨content, hread, p, hp, hpiece⟩) hinline

/-! ### Cycles -/

/-- Imports of a file lead to an end: there is no endless way along them. -/
def Ends (source : Source Id) (file : Path) : Prop := Acc (Function.swap (Imports source)) file

theorem ends_of_read {content : Text} (hread : source.read file = .ok content)
    (h : ∀ p ∈ pieces content, ∀ path next, importOf? (dirOf file) p = some path →
      source.canonical path = .ok next → Ends source next) : Ends source file := by
  refine .intro file fun next ⟨path, ⟨content', hread', p, hp, hpiece⟩, hpath⟩ => ?_
  obtain rfl := Except.ok.inj (hread.symm.trans hread')
  exact h p hp path next hpiece hpath

theorem Ends.not_transGen (h : Ends source file) : ¬ TransGen (Imports source) file file := by
  have hends : Acc (TransGen (Function.swap (Imports source))) file := h.transGen
  rw [← transGen_swap]
  clear h
  induction hends with
  | intro g _ ih => exact fun hg => ih g hg hg

/-- If imports lead to an end from the files that are met and not being inlined, they do from all
that are met after the pieces, and from what the pieces import. -/
theorem Expansion.ends (h : Expansion source opened file ps seen blocks seen')
    (hseen : ∀ g ∈ seen, g ∉ opened → Ends source g) :
    (∀ g ∈ seen', g ∉ opened → Ends source g) ∧
      ∀ p ∈ ps, ∀ path next, importOf? (dirOf file) p = some path →
        source.canonical path = .ok next → Ends source next := by
  induction h with
  | nil => exact ⟨hseen, fun p hp => absurd hp List.not_mem_nil⟩
  | own hpiece _ ih =>
    refine ⟨(ih hseen).1, List.forall_mem_cons.2 ⟨fun path next hpath => ?_, (ih hseen).2⟩⟩
    simp [hpiece] at hpath
  | again hpiece hpath hopened hmet _ ih =>
    refine ⟨(ih hseen).1, List.forall_mem_cons.2 ⟨fun path next hpiece' hpath' => ?_, (ih hseen).2⟩⟩
    obtain rfl := Option.some.inj (hpiece.symm.trans hpiece')
    obtain rfl := Except.ok.inj (hpath.symm.trans hpath')
    exact hseen _ hmet hopened
  | @first opened seen mid seen' file path next content p ps inner blocks hpiece hpath hopened _
      hread _ _ ihInside ihRest =>
    have hinside := ihInside fun g hg hnew => by
      rw [List.mem_append, List.mem_singleton, not_or] at hnew
      exact hseen g ((List.mem_cons.1 hg).resolve_left hnew.2) hnew.1
    -- The imported file is no longer being inlined, and all it imports has been followed.
    have hnext : Ends source next := ends_of_read hread hinside.2
    have hrest := ihRest fun g hg hnew => by
      by_cases heq : g = next
      · rw [heq]
        exact hnext
      · exact hinside.1 g hg (by simp [hnew, heq])
    refine ⟨hrest.1, List.forall_mem_cons.2 ⟨fun path' next' hpiece' hpath' => ?_, hrest.2⟩⟩
    obtain rfl := Option.some.inj (hpiece.symm.trans hpiece')
    obtain rfl := Except.ok.inj (hpath.symm.trans hpath')
    exact hnext

theorem IsBundleable.of_bundle {t : Text} (h : bundle source limit entry = .ok t) :
    IsBundleable source entry := by
  obtain ⟨first, content, blocks, seen, hentry, hread, hexpansion, -⟩ := exists_expansion h
  have hmet : ∀ file, Reaches source entry file → file ∈ seen := fun file hfile =>
    (hexpansion.mem_iff_reaches hentry hread).2 hfile
  refine ⟨⟨first, hentry⟩, fun file hfile => ?_, fun file path hfile hwants => ?_,
    fun file hfile => ?_⟩
  · obtain ⟨content, hcontent, -⟩ := hexpansion.inPlace_entry hread (hmet file hfile)
    exact ⟨content, hcontent⟩
  · obtain ⟨content, hcontent, hplace⟩ := hexpansion.inPlace_entry hread (hmet file hfile)
    obtain ⟨next, -, hnext⟩ := hplace.exists_of_wants hcontent hwants
    exact ⟨next, hnext⟩
  · obtain ⟨hends, himports⟩ := hexpansion.ends fun g hg hnew => absurd hg hnew
    refine Ends.not_transGen ?_
    by_cases heq : file = first
    · rw [heq]
      exact ends_of_read hread himports
    · exact hends file (hmet file hfile) fun hmem => heq (List.mem_singleton.1 hmem)

/-- Along a chain of imports every file leads to all that come later. -/
theorem pairwise_transGen {files : List Path} (h : files.IsChain (Imports source)) :
    files.Pairwise (TransGen (Imports source)) :=
  List.isChain_iff_pairwise.1 (h.imp fun _ _ => .single)

/-- What the search fails with is in the way of any bundle. -/
theorem Fails.not_isBundleable (h : Fails source entry f) : ¬ IsBundleable source entry := by
  intro hb
  cases h with
  | lost hroute hpath =>
    cases hroute with
    | start =>
      obtain ⟨first, hfirst⟩ := hb.canonical
      cases hpath.symm.trans hfirst
    | next hroute hlast hwants =>
      obtain ⟨next, hnext⟩ := hb.present _ _ (hroute.reaches hlast) hwants
      cases hpath.symm.trans hnext
  | unreadable hreach hread =>
    obtain ⟨content, hcontent⟩ := hb.readable _ hreach
    cases hread.symm.trans hcontent
  | @cycle opened path file hroute hpath hopened =>
    refine hb.acyclic file (hroute.reaches hpath) ?_
    have hpairwise := pairwise_transGen (hroute.isChain hpath).1
    exact (List.pairwise_append.1 hpairwise).2.2 file hopened file (List.mem_singleton_self file)

theorem fails_of_bundle (hfiles : source.IsCoveredBy files) (hlimit : files.length < limit)
    (h : bundle source limit entry = .error f) : Fails source entry f := by
  rw [bundle] at h
  cases hflatten : flatten source limit [] [] entry with
  | ok r =>
    simp only [hflatten] at h
    cases h
  | error g =>
    simp only [hflatten] at h
    rw [← Except.error.inj h]
    exact fails_of_flatten hfiles (.nil hlimit) .start hflatten

/-! ### The search as a whole -/

theorem bundle_add (hfiles : source.IsCoveredBy files) (hlimit : files.length < limit) (more : Nat)
    (entry : Path) : bundle source (limit + more) entry = bundle source limit entry := by
  rw [bundle, bundle, flatten_add hfiles (.nil hlimit)]

theorem head?_message_ne (fault : FileFault) : fault.message.head? ≠ some 'i' := by
  cases fault <;> decide

theorem message_ne_tooDeep (fault : FileFault) :
    fault.message ≠ "Imports nested too deeply".toList := by
  cases fault <;> decide

/-- What is reported as a cycle is one: the files on the way, each imported by the one before, up to
one that is on the way already. -/
theorem Fails.exists_cycle {again : Path} {report : Text}
    (h : Fails source entry (.bundle again ("import cycle: ".toList ++ report))) :
    ∃ first route, source.canonical entry = .ok first ∧ route.head? = some first ∧ again ∈ route ∧
      (route ++ [again]).IsChain (Imports source) ∧
      report = Text.joinWith " -> ".toList ((route ++ [again]).map Path.text) := by
  generalize hfailure : Failure.bundle again ("import cycle: ".toList ++ report) = f at h
  cases h with
  | @lost _ _ fault =>
    obtain ⟨-, hreport⟩ := Failure.bundle.inj hfailure
    exact absurd (by rw [← hreport]; rfl) (head?_message_ne fault)
  | @unreadable _ fault =>
    obtain ⟨-, hreport⟩ := Failure.bundle.inj hfailure
    exact absurd (by rw [← hreport]; rfl) (head?_message_ne fault)
  | @cycle opened path file hroute hpath hopened =>
    obtain ⟨rfl, hreport⟩ := Failure.bundle.inj hfailure
    obtain ⟨hchain, first, hentry, hfirst⟩ := hroute.isChain hpath
    refine ⟨first, opened, hentry, ?_, hopened, hchain, List.append_cancel_left hreport⟩
    obtain ⟨x, more, hmore⟩ := List.exists_cons_of_ne_nil (List.ne_nil_of_mem hopened)
    rw [hmore] at hfirst ⊢
    exact hfirst

theorem Fails.ne_tooDeep (h : Fails source entry f) (path : Path) :
    f ≠ .bundle path "Imports nested too deeply".toList := by
  intro heq
  cases h with
  | @lost _ _ fault => exact message_ne_tooDeep fault (Failure.bundle.inj heq).2
  | @unreadable _ fault => exact message_ne_tooDeep fault (Failure.bundle.inj heq).2
  | cycle => exact absurd (List.cons.inj (Failure.bundle.inj heq).2).1 (by decide)

/-- Where there are finitely many files the search ends: above their number the limit makes no
difference and is never reached. There is a bundle exactly if everything that is reached is there
and no file leads back to itself, and what is reported as a cycle is a way from the entry to a file
that is on it already. -/
theorem bundle_iff_isBundleable {n : Nat} (hbound : source.IsBoundedBy n) (hlimit : n < limit)
    (entry : Path) :
    (∀ more, bundle source (limit + more) entry = bundle source limit entry) ∧
      (∀ path, bundle source limit entry ≠
        .error (.bundle path "Imports nested too deeply".toList)) ∧
      ((∃ t, bundle source limit entry = .ok t) ↔ IsBundleable source entry) ∧
      ∀ again report, bundle source limit entry =
          .error (.bundle again ("import cycle: ".toList ++ report)) →
        ∃ first route, source.canonical entry = .ok first ∧ route.head? = some first ∧
          again ∈ route ∧ (route ++ [again]).IsChain (Imports source) ∧
          report = Text.joinWith " -> ".toList ((route ++ [again]).map Path.text) := by
  obtain ⟨files, hlength, hfiles⟩ := hbound
  have hfit : files.length < limit := Nat.lt_of_le_of_lt hlength hlimit
  refine ⟨fun more => bundle_add hfiles hfit more entry, fun path h => ?_, ⟨?_, fun hb => ?_⟩,
    fun again report h => (fails_of_bundle hfiles hfit h).exists_cycle⟩
  · exact (fails_of_bundle hfiles hfit h).ne_tooDeep path rfl
  · rintro ⟨t, h⟩
    exact .of_bundle h
  · cases h : bundle source limit entry with
    | ok t => exact ⟨t, rfl⟩
    | error f => exact absurd hb (fails_of_bundle hfiles hfit h).not_isBundleable

/-- Two sheets that import each other. -/
def loop : FileSystem :=
  ⟨.dir [("a.less".toList, .file (.text "@import 'b';\n".toList) false),
    ("b.less".toList, .file (.text "@import \"a.less\";\n".toList) false)], []⟩

theorem bundle_iff_isBundleable_loop :
    (treeSource loop).IsBoundedBy 2 ∧ 2 < treeLimit loop ∧
      bundle (treeSource loop) (treeLimit loop) (.ofString "a.less") =
        .error (.bundle (.ofString "/a.less")
          "import cycle: /a.less -> /b.less -> /a.less".toList) ∧
      ¬ IsBundleable (treeSource loop) (.ofString "a.less") ∧
      ∃ first route, (treeSource loop).canonical (.ofString "a.less") = .ok first ∧
        route.head? = some first ∧ Path.ofString "/a.less" ∈ route ∧
        (route ++ [Path.ofString "/a.less"]).IsChain (Imports (treeSource loop)) ∧
        "/a.less -> /b.less -> /a.less".toList =
          Text.joinWith " -> ".toList ((route ++ [Path.ofString "/a.less"]).map Path.text) := by
  have hbound : (treeSource loop).IsBoundedBy 2 := isBoundedBy_treeSource .root
  have hlimit : 2 < treeLimit loop := by decide
  have hfails : bundle (treeSource loop) (treeLimit loop) (.ofString "a.less") =
      .error (.bundle (.ofString "/a.less")
        "import cycle: /a.less -> /b.less -> /a.less".toList) := rfl
  obtain ⟨-, -, hiff, hcycle⟩ := bundle_iff_isBundleable hbound hlimit (.ofString "a.less")
  refine ⟨hbound, hlimit, hfails, fun hb => ?_, hcycle _ _ hfails⟩
  obtain ⟨t, ht⟩ := hiff.2 hb
  cases hfails.symm.trans ht

end Retint.Bundle
