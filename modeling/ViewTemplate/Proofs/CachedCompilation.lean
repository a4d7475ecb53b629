import Mathlib.Tactic.Common
import ViewTemplate.Cache.Memory
import ViewTemplate.Proofs.Fingerprints

/-!
# A cache changes no answer

A compiler with a cache is asked for the output of views, whether the output of a view is kept, and
to remove entries; `Session` is what it has done so far.  If the output is a function `f` of the
view alone, the cache cannot be seen in the answers: whatever the calls, their times and the
lifetime of entries, every request is answered by `f` (`cached_compilation`).

What one call can do is said once, in `Session.Step`.  A hit answers with `f` because every entry
was kept for a view of the same fingerprint, and where digests do not collide that is the same view.
-/

namespace ViewTemplate

namespace Bindings

variable {α : Type}

lemma mem_bind {b : Bindings α} {name : String} {v : α} {entry : String × α}
    (h : entry ∈ bind b name v) : entry ∈ b ∨ entry = (name, v) := by
  induction b with
  | nil => exact .inr (List.mem_singleton.1 h)
  | cons first rest ih =>
    obtain ⟨k, u⟩ := first
    rw [bind] at h
    split at h
    · rename_i hk
      subst hk
      exact (List.mem_cons.1 h).symm.imp_left (List.mem_cons_of_mem _)
    · rcases List.mem_cons.1 h with rfl | hrest
      · exact .inl List.mem_cons_self
      · exact (ih hrest).imp_left (List.mem_cons_of_mem _)

end Bindings

/-! ## One request -/

section Compile

variable {ε τ : Type} {run : View → τ → Except ε String × τ} {now : Nat} {view : View}
  {c : MemoryCache} {state after : τ} {output : String}

lemma compile_of_found (hfound : c.lookup? now view = some output) :
    compile run now view (.memory c) state =
      (.ok output, .memory { c with hits := c.hits + 1 }, state) := by
  simp only [compile, Cache.get, MemoryCache.get, hfound]

lemma compile_of_ok (hmissing : c.lookup? now view = none)
    (hrun : run view state = (.ok output, after)) :
    compile run now view (.memory c) state =
      (.ok output, .memory ({ c with misses := c.misses + 1 }.set now view output), after) := by
  simp only [compile, Cache.get, MemoryCache.get, hmissing, hrun, Cache.set]

lemma compile_of_error {e : ε} (hmissing : c.lookup? now view = none)
    (hrun : run view state = (.error e, after)) :
    compile run now view (.memory c) state =
      (.error e, .memory { c with misses := c.misses + 1 }, after) := by
  simp only [compile, Cache.get, MemoryCache.get, hmissing, hrun]

end Compile

/-! ## Calls -/

/-- What is asked of a compiler. -/
inductive CacheCall where
  | compile (view : View)
  | has (view : View)
  | flush
  | cleanUp

/-- The view that a call speaks of. -/
def CacheCall.view? : CacheCall → Option View
  | .compile view => some view
  | .has view => some view
  | _ => none

/-- The view that a call asks the output of. -/
def CacheCall.compiled? : CacheCall → Option View
  | .compile view => some view
  | _ => none

abbrev CacheCalls := List (Nat × CacheCall)

/-- The views that calls speak of. -/
def CacheCalls.views (calls : CacheCalls) : List View :=
  calls.filterMap fun call => call.2.view?

/-- The views that calls ask the output of, in order. -/
def CacheCalls.compiled (calls : CacheCalls) : List View :=
  calls.filterMap fun call => call.2.compiled?

lemma CacheCalls.compiled_concat (calls : CacheCalls) (x : Nat × CacheCall) :
    (calls ++ [x] : CacheCalls).compiled = calls.compiled ++ x.2.compiled?.toList := by
  rw [CacheCalls.compiled, List.filterMap_append]
  cases hx : x.2.compiled? <;> simp [hx, CacheCalls.compiled]

/-- What a compiler has done: its cache, the answers it gave, and the views it has run. -/
structure Session (ε : Type) where
  cache : Cache
  /-- The views whose output was asked for, each with the answer. -/
  answers : List (View × Except ε String) := []
  /-- The views that were looked for in the cache, each with the answer. -/
  found : List (View × Bool) := []
  /-- The views that were run, because their output was not kept. -/
  run : List View := []

namespace Session

variable {ε : Type} (f : View → Except ε String)

/-- Run a view: its output is `f` of it, and the run is noted. -/
def runView (view : View) (run : List View) : Except ε String × List View :=
  (f view, run ++ [view])

/-- Answer a call at a time. -/
def call (s : Session ε) : Nat × CacheCall → Session ε
  | (now, .compile view) =>
    let (answer, cache, run) := ViewTemplate.compile (runView f) now view s.cache s.run
    { s with cache, answers := s.answers ++ [(view, answer)], run }
  | (now, .has view) => { s with found := s.found ++ [(view, s.cache.has now view)] }
  | (_, .flush) => { s with cache := s.cache.flush }
  | (now, .cleanUp) => { s with cache := s.cache.cleanUp now }

/-- Answer calls one after the other. -/
def calls (s : Session ε) (calls : CacheCalls) : Session ε :=
  List.foldl (call f) s calls

/-- What a call can do to a session with a cache in memory. -/
inductive Step (s : Session ε) (c : MemoryCache) : Nat × CacheCall → MemoryCache → Session ε → Prop
  /-- The output was kept, and it is the one that `f` gives. -/
  | hit {now : Nat} {view : View} {output : String} (hf : f view = .ok output) :
      Step s c (now, .compile view) { c with hits := c.hits + 1 }
        { s with
          cache := .memory { c with hits := c.hits + 1 }
          answers := s.answers ++ [(view, f view)] }
  /-- The view was run and has an output, which is kept. -/
  | keeps {now : Nat} {view : View} {output : String} (hmissing : c.lookup? now view = none)
      (hf : f view = .ok output) :
      Step s c (now, .compile view) ({ c with misses := c.misses + 1 }.set now view output)
        { s with
          cache := .memory ({ c with misses := c.misses + 1 }.set now view output)
          answers := s.answers ++ [(view, f view)]
          run := s.run ++ [view] }
  /-- The view was run and has no output. -/
  | fails {now : Nat} {view : View} {e : ε} (hf : f view = .error e) :
      Step s c (now, .compile view) { c with misses := c.misses + 1 }
        { s with
          cache := .memory { c with misses := c.misses + 1 }
          answers := s.answers ++ [(view, f view)]
          run := s.run ++ [view] }
  | has {now : Nat} {view : View} (hf : c.has now view = true → ∃ output, f view = .ok output) :
      Step s c (now, .has view) c { s with found := s.found ++ [(view, c.has now view)] }
  | flush {now : Nat} : Step s c (now, .flush) c.flush { s with cache := .memory c.flush }
  | cleanUp {now : Nat} :
      Step s c (now, .cleanUp) (c.cleanUp now) { s with cache := .memory (c.cleanUp now) }

variable {f}

/-- Every entry is the output of a view with its fingerprint, one of the views given. -/
def Backed (f : View → Except ε String) (views : List View) (entries : Bindings CacheEntry) :
    Prop :=
  ∀ entry ∈ entries, ∃ v ∈ views, v.fingerprint = entry.1 ∧ f v = .ok entry.2.output

/-- Different views have different fingerprints. -/
def ToldApart (views : List View) : Prop :=
  ∀ u ∈ views, ∀ w ∈ views, u.fingerprint = w.fingerprint → u = w

/-- What is found in the cache is what `f` gives. -/
lemma Backed.eq_of_lookup? {views known : List View} {c : MemoryCache}
    (h : Backed f known c.entries) (hknown : ∀ v ∈ known, v ∈ views) (hapart : ToldApart views)
    {now : Nat} {view : View} (hview : view ∈ views) {output : String}
    (hfound : c.lookup? now view = some output) : f view = .ok output := by
  unfold MemoryCache.lookup? at hfound
  cases hentry : Bindings.find? c.entries view.fingerprint with
  | none => simp [hentry] at hfound
  | some entry =>
    obtain ⟨v, hv, hprint, hf⟩ := h _ (Bindings.mem_of_find? hentry)
    obtain rfl : v = view := hapart v (hknown v hv) view hview hprint
    simp only [hentry] at hfound
    split at hfound
    · cases hfound
    · rw [hf, Option.some.inj hfound]

/-- Every call is one of the steps. -/
lemma step_call {views known : List View} {s : Session ε} {c : MemoryCache}
    (hcache : s.cache = .memory c) (h : Backed f known c.entries) (hknown : ∀ v ∈ known, v ∈ views)
    (hapart : ToldApart views) {x : Nat × CacheCall} (hx : ∀ v, x.2.view? = some v → v ∈ views) :
    ∃ after, Step f s c x after (s.call f x) := by
  obtain ⟨now, x⟩ := x
  obtain ⟨cache, answers, found, run⟩ := s
  obtain rfl : cache = .memory c := hcache
  cases x with
  | compile view =>
    cases hfound : c.lookup? now view with
    | some output =>
      -- an entry of the same fingerprint was made from the view itself, as the views are told apart
      have hf := h.eq_of_lookup? hknown hapart (hx view rfl) hfound
      simp only [call, compile_of_found hfound, ← hf]
      exact ⟨_, .hit hf⟩
    | none =>
      cases hf : f view with
      | ok output =>
        have hrun : runView f view run = (.ok output, run ++ [view]) := by rw [runView, hf]
        simp only [call, compile_of_ok hfound hrun, ← hf]
        exact ⟨_, .keeps hfound hf⟩
      | error e =>
        have hrun : runView f view run = (.error e, run ++ [view]) := by rw [runView, hf]
        simp only [call, compile_of_error hfound hrun, ← hf]
        exact ⟨_, .fails hf⟩
  | has view =>
    refine ⟨c, .has fun hhas => ?_⟩
    obtain ⟨output, hfound⟩ := Option.isSome_iff_exists.1 hhas
    exact ⟨output, h.eq_of_lookup? hknown hapart (hx view rfl) hfound⟩
  | flush => exact ⟨_, .flush⟩
  | cleanUp => exact ⟨_, .cleanUp⟩

/-! ## What holds behind every row of calls -/

lemma Backed.mono {views more : List View} {entries : Bindings CacheEntry}
    (h : Backed f views entries) (hmore : ∀ v ∈ views, v ∈ more) : Backed f more entries := by
  intro entry hentry
  obtain ⟨v, hv, hprint, hf⟩ := h entry hentry
  exact ⟨v, hmore v hv, hprint, hf⟩

lemma Backed.bind {views : List View} {entries : Bindings CacheEntry} (h : Backed f views entries)
    {view : View} (hview : view ∈ views) {output : String} (hf : f view = .ok output)
    (expires : Option Nat) :
    Backed f views (Bindings.bind entries view.fingerprint ⟨output, expires⟩) := by
  intro entry hentry
  rcases Bindings.mem_bind hentry with hentry | rfl
  · exact h entry hentry
  · exact ⟨view, hview, rfl, hf⟩

/-- What holds of a session and its cache behind calls. -/
structure Sound (f : View → Except ε String) (calls : CacheCalls) (s : Session ε)
    (c : MemoryCache) : Prop where
  cache : s.cache = .memory c
  answers : s.answers = calls.compiled.map fun v => (v, f v)
  backed : Backed f calls.compiled c.entries
  requests : c.hits + c.misses = calls.compiled.length
  found : ∀ answer ∈ s.found, answer.2 = true → ∃ output, f answer.1 = .ok output

lemma Sound.step {calls : CacheCalls} {s s' : Session ε} {c after : MemoryCache}
    (h : Sound f calls s c) {x : Nat × CacheCall} (hstep : Step f s c x after s') :
    Sound f (calls ++ [x]) s' after := by
  have hcompiled := CacheCalls.compiled_concat calls x
  have hmore : Backed f (calls ++ [x] : CacheCalls).compiled c.entries :=
    h.backed.mono fun v hv => hcompiled ▸ List.mem_append_left _ hv
  have hanswers : s.answers ++ x.2.compiled?.toList.map (fun v => (v, f v)) =
      (calls ++ [x] : CacheCalls).compiled.map fun v => (v, f v) := by
    rw [hcompiled, List.map_append, h.answers]
  have hlength : c.hits + c.misses + x.2.compiled?.toList.length =
      (calls ++ [x] : CacheCalls).compiled.length := by
    rw [hcompiled, List.length_append, h.requests]
  have hsame := List.append_nil s.answers
  cases hstep with
  | hit hf => exact ⟨rfl, hanswers, hmore, (Nat.add_right_comm _ _ _).trans hlength, h.found⟩
  | keeps hmissing hf =>
    refine ⟨rfl, hanswers, hmore.bind ?_ hf _, hlength, h.found⟩
    rw [hcompiled]
    exact List.mem_append_right _ List.mem_cons_self
  | fails hf => exact ⟨rfl, hanswers, hmore, hlength, h.found⟩
  | has hf =>
    refine ⟨h.cache, hsame.symm.trans hanswers, hmore, hlength, fun answer hanswer => ?_⟩
    rcases List.mem_append.1 hanswer with hanswer | hanswer
    · exact h.found answer hanswer
    · rw [List.mem_singleton.1 hanswer]
      exact hf
  | flush =>
    refine ⟨rfl, hsame.symm.trans hanswers, fun entry hentry => ?_, hlength, h.found⟩
    simp [MemoryCache.flush] at hentry
  | cleanUp =>
    refine ⟨rfl, hsame.symm.trans hanswers, fun entry hentry => ?_, hlength, h.found⟩
    exact hmore entry (List.mem_of_mem_filter hentry)

/-- A session with an empty cache in memory. -/
def start (lifetime : Option Nat) : Session ε where
  cache := .memory { lifetime }

lemma calls_concat (s : Session ε) (before : CacheCalls) (x : Nat × CacheCall) :
    s.calls f (before ++ [x]) = (s.calls f before).call f x := by
  rw [Session.calls, List.foldl_append]
  rfl

lemma mem_views_of_mem_compiled {calls : CacheCalls} {v : View} (h : v ∈ calls.compiled) :
    v ∈ calls.views := by
  obtain ⟨⟨now, x⟩, hx, hv⟩ := List.mem_filterMap.1 h
  refine List.mem_filterMap.2 ⟨(now, x), hx, ?_⟩
  cases x <;> simp_all [CacheCall.compiled?, CacheCall.view?]

lemma ToldApart.mono {views more : List View} (h : ToldApart more)
    (hviews : ∀ v ∈ views, v ∈ more) : ToldApart views :=
  fun u hu w hw => h u (hviews u hu) w (hviews w hw)

lemma mem_views_append_left {calls : CacheCalls} (more : CacheCalls) {v : View}
    (h : v ∈ calls.views) : v ∈ (calls ++ more : CacheCalls).views := by
  rw [CacheCalls.views, List.filterMap_append]
  exact List.mem_append_left _ h

/-- One more call is one of the steps. -/
lemma Sound.step_concat {before : CacheCalls} {s : Session ε} {c : MemoryCache}
    (h : Sound f before s c) {x : Nat × CacheCall}
    (hapart : ToldApart (before ++ [x] : CacheCalls).views) :
    ∃ after, Step f s c x after (s.call f x) := by
  refine step_call h.cache h.backed (fun v hv => ?_) hapart fun v hv => ?_
  · exact mem_views_append_left [x] (mem_views_of_mem_compiled hv)
  · exact List.mem_filterMap.2 ⟨x, by simp, hv⟩

/-- Every row of calls leaves a sound session behind, and a cache with what every step keeps. -/
lemma exists_sound_and (lifetime : Option Nat) {I : MemoryCache → Prop} (hstart : I { lifetime })
    (hkeeps : ∀ {s s' : Session ε} {c after x}, I c → Step f s c x after s' → I after)
    {calls : CacheCalls} (hapart : ToldApart calls.views) :
    ∃ c, Sound f calls ((start lifetime).calls f calls) c ∧ I c := by
  induction calls using List.reverseRecOn with
  | nil => exact ⟨_, ⟨rfl, rfl, by simp [Backed], rfl, by simp [Session.calls, start]⟩, hstart⟩
  | append_singleton before x ih =>
    obtain ⟨c, hsound, hc⟩ := ih (hapart.mono fun v => mem_views_append_left [x])
    obtain ⟨after, hstep⟩ := hsound.step_concat hapart
    rw [calls_concat]
    exact ⟨after, hsound.step hstep, hkeeps hc hstep⟩

lemma exists_sound (lifetime : Option Nat) {calls : CacheCalls} (hapart : ToldApart calls.views) :
    ∃ c, Sound f calls ((start lifetime).calls f calls) c := by
  obtain ⟨c, hsound, -⟩ := exists_sound_and (f := f) lifetime (I := fun _ => True) trivial
    (fun _ _ => trivial) hapart
  exact ⟨c, hsound⟩

lemma call_uncached {s : Session ε} (h : s.cache = .none) (x : Nat × CacheCall) :
    (s.call f x).cache = .none ∧
      (s.call f x).answers = s.answers ++ x.2.compiled?.toList.map fun v => (v, f v) := by
  obtain ⟨now, x⟩ := x
  obtain ⟨cache, answers, found, run⟩ := s
  obtain rfl : cache = .none := h
  cases x with
  | compile view =>
    cases hf : f view <;>
      simp [call, ViewTemplate.compile, Cache.get, Cache.set, runView, CacheCall.compiled?, hf]
  | has view => simp [call, CacheCall.compiled?]
  | flush => simp [call, CacheCall.compiled?, Cache.flush]
  | cleanUp => simp [call, CacheCall.compiled?, Cache.cleanUp]

/-- Without a cache every request is answered by running the view. -/
lemma answers_uncached (calls : CacheCalls) :
    (Session.calls f { cache := .none } calls).answers = calls.compiled.map fun v => (v, f v) := by
  have hall : (Session.calls f { cache := .none } calls).cache = .none ∧
      (Session.calls f { cache := .none } calls).answers =
        calls.compiled.map fun v => (v, f v) := by
    induction calls using List.reverseRecOn with
    | nil => exact ⟨rfl, rfl⟩
    | append_singleton before x ih =>
      have hcall := call_uncached (f := f) ih.1 x
      rw [calls_concat, CacheCalls.compiled_concat, List.map_append, ← ih.2]
      exact hcall
  exact hall.2

/-! ## Entries that never expire -/

/-- The entries of a cache never expire. -/
structure Forever (c : MemoryCache) : Prop where
  lifetime : c.lifetime = none
  entries : ∀ entry ∈ c.entries, entry.2.expires = none

lemma Forever.step {s s' : Session ε} {c after : MemoryCache} (h : Forever c)
    {x : Nat × CacheCall} (hstep : Step f s c x after s') : Forever after := by
  cases hstep with
  | hit => exact ⟨h.lifetime, h.entries⟩
  | keeps =>
    refine ⟨h.lifetime, fun entry hentry => ?_⟩
    rcases Bindings.mem_bind hentry with hentry | rfl
    · exact h.entries entry hentry
    · simp [h.lifetime]
  | fails => exact ⟨h.lifetime, h.entries⟩
  | has => exact h
  | flush => exact ⟨h.lifetime, by simp [MemoryCache.flush]⟩
  | cleanUp =>
    refine ⟨h.lifetime, fun entry hentry => ?_⟩
    exact h.entries entry (List.mem_of_mem_filter hentry)

/-- What is kept forever is found at any time. -/
lemma Forever.lookup?_ne_none {c : MemoryCache} (h : Forever c) {view : View}
    (hkept : (Bindings.find? c.entries view.fingerprint).isSome) (now : Nat) :
    c.lookup? now view ≠ none := by
  obtain ⟨entry, hentry⟩ := Option.isSome_iff_exists.1 hkept
  have hexpires := h.entries _ (Bindings.mem_of_find? hentry)
  simp only at hexpires
  simp [MemoryCache.lookup?, hentry, CacheEntry.isExpired, hexpires]

lemma Forever.cleanUp_entries {c : MemoryCache} (h : Forever c) (now : Nat) :
    (c.cleanUp now).entries = c.entries := by
  refine List.filter_eq_self.2 fun entry hentry => ?_
  simp [CacheEntry.isExpired, h.entries entry hentry]

/-- Views that were run since the last flush: the outputs are kept, and no view with an output was
run twice. -/
structure RunOnce (f : View → Except ε String) (run : List View) (c : MemoryCache) : Prop where
  kept : ∀ v ∈ run, ∀ output, f v = .ok output → (Bindings.find? c.entries v.fingerprint).isSome
  nodup : (run.filter fun v => (f v).isOk).Nodup

lemma RunOnce.step {s s' : Session ε} {c after : MemoryCache} {before run : List View}
    (h : RunOnce f run c) (hforever : Forever c) (hrun : s.run = before ++ run)
    {x : Nat × CacheCall} (hx : x.2 ≠ .flush) (hstep : Step f s c x after s') :
    ∃ more, s'.run = before ++ more ∧ RunOnce f more after := by
  cases hstep with
  | hit => exact ⟨run, hrun, h.kept, h.nodup⟩
  | @keeps now view output hmissing hf =>
    -- had the view been run before, its output would still be found
    have hnew : view ∉ run := fun hmem =>
      hforever.lookup?_ne_none (h.kept view hmem output hf) now hmissing
    refine ⟨run ++ [view], by simp [hrun], ?_, ?_⟩
    · intro v hv output' hf'
      simp only [MemoryCache.set]
      by_cases hprint : v.fingerprint = view.fingerprint
      · simp [hprint]
      · rw [Bindings.find?_bind_of_ne _ _ hprint]
        rcases List.mem_append.1 hv with hv | hv
        · exact h.kept v hv output' hf'
        · exact absurd (congrArg View.fingerprint (List.mem_singleton.1 hv)) hprint
    · have hlast : [view].filter (fun v => (f v).isOk) = [view] := by
        simp [hf, Except.isOk, Except.toBool]
      rw [List.filter_append, hlast]
      refine List.nodup_append.2 ⟨h.nodup, by simp, fun u hu w hw huw => ?_⟩
      rw [huw, List.mem_singleton.1 hw] at hu
      exact hnew (List.mem_of_mem_filter hu)
  -- a view without an output may be run again, and is not counted
  | @fails now view e hf =>
    have hlast : [view].filter (fun v => (f v).isOk) = [] := by
      simp [hf, Except.isOk, Except.toBool]
    refine ⟨run ++ [view], by simp [hrun], ?_, ?_⟩
    · intro v hv output hf'
      rcases List.mem_append.1 hv with hv | hv
      · exact h.kept v hv output hf'
      · rw [List.mem_singleton.1 hv, hf] at hf'
        cases hf'
    · rw [List.filter_append, hlast, List.append_nil]
      exact h.nodup
  | has => exact ⟨run, hrun, h⟩
  | flush => exact absurd rfl hx
  | cleanUp =>
    refine ⟨run, hrun, fun v hv output hf => ?_, h.nodup⟩
    rw [hforever.cleanUp_entries]
    exact h.kept v hv output hf

/-- Behind any calls and then some without a flush, no view with an output was run twice
meanwhile. -/
lemma exists_runOnce {before middle : CacheCalls}
    (hapart : ToldApart (before ++ middle : CacheCalls).views)
    (hflush : ∀ x ∈ middle, x.2 ≠ .flush) :
    ∃ c run, Sound f (before ++ middle) ((start none).calls f (before ++ middle)) c ∧ Forever c ∧
      ((start none).calls f (before ++ middle)).run = ((start none).calls f before).run ++ run ∧
      RunOnce f run c := by
  induction middle using List.reverseRecOn with
  | nil =>
    rw [List.append_nil] at hapart ⊢
    obtain ⟨c, hsound, hforever⟩ := exists_sound_and none (I := Forever) ⟨rfl, by simp⟩
      (fun h hstep => h.step hstep) hapart
    exact ⟨c, [], hsound, hforever, by simp, by simp, by simp⟩
  | append_singleton middle x ih =>
    rw [← List.append_assoc] at hapart ⊢
    obtain ⟨c, run, hsound, hforever, hrun, honce⟩ := ih
      (hapart.mono fun v => mem_views_append_left [x])
      (fun y hy => hflush y (List.mem_append_left _ hy))
    obtain ⟨after, hstep⟩ := hsound.step_concat hapart
    obtain ⟨more, hmore, honce'⟩ := honce.step hforever hrun (hflush x (by simp)) hstep
    rw [calls_concat]
    exact ⟨after, more, hsound.step hstep, hforever.step hstep, hmore, honce'⟩

/-- The entries of the cache of a session. -/
def entries (s : Session ε) : Bindings CacheEntry :=
  match s.cache with
  | .none => []
  | .memory c => c.entries

lemma Step.entries_of_error {s s' : Session ε} {c after : MemoryCache} {now : Nat} {view : View}
    {e : ε} (hstep : Step f s c (now, .compile view) after s') (hcache : s.cache = .memory c)
    (hf : f view = .error e) : s'.entries = s.entries := by
  cases hstep with
  | hit hf' => simp [hf] at hf'
  | keeps _ hf' => simp [hf] at hf'
  | fails => simp only [Session.entries, hcache]

end Session

open Session

/-- A cache changes no answer.  For all calls, at any times and with any lifetime of entries, every
request is answered by `f`, as it is without a cache; what is kept are outputs of `f`; a request
that fails keeps nothing; and every request is counted once.  If entries never expire, no view that
has an output is run twice without a flush in between. -/
theorem cached_compilation {ε : Type} (f : View → Except ε String) (lifetime : Option Nat)
    (calls : CacheCalls) (hfits : ∀ v ∈ calls.views, v.FitsFields)
    (hdigest : ∀ u ∈ calls.views, ∀ w ∈ calls.views, u.DigestApart w) :
    ((start lifetime).calls f calls).answers = calls.compiled.map (fun v => (v, f v)) ∧
    (Session.calls f { cache := .none } calls).answers =
      ((start lifetime).calls f calls).answers ∧
    (∀ answer ∈ ((start lifetime).calls f calls).found, answer.2 = true →
      ∃ output, f answer.1 = .ok output) ∧
    (∀ entry ∈ ((start lifetime).calls f calls).entries, ∃ v ∈ calls.compiled,
      v.fingerprint = entry.1 ∧ f v = .ok entry.2.output) ∧
    (∀ before now view after e, calls = before ++ (now, .compile view) :: after →
      f view = .error e →
      ((start lifetime).calls f (before ++ [(now, .compile view)])).entries =
        ((start lifetime).calls f before).entries) ∧
    (∃ statistics, ((start lifetime).calls f calls).cache.statistics? = some statistics ∧
      statistics.total = calls.compiled.length) ∧
    (lifetime = none → ∀ before middle after, calls = before ++ middle ++ after →
      (∀ x ∈ middle, x.2 ≠ .flush) →
      ∃ run, ((start lifetime).calls f (before ++ middle)).run =
          ((start lifetime).calls f before).run ++ run ∧
        (run.filter fun v => (f v).isOk).Nodup) := by
  have hapart : ToldApart calls.views := fun u hu w hw =>
    View.eq_of_fingerprint (hfits u hu) (hfits w hw) (hdigest u hu w hw)
  obtain ⟨c, hsound⟩ := exists_sound (f := f) lifetime hapart
  refine ⟨hsound.answers, ?_, hsound.found, ?_, ?_, ?_, ?_⟩
  · rw [answers_uncached, hsound.answers]
  · rw [Session.entries, hsound.cache]
    exact hsound.backed
  · intro before now view after e hcalls hf
    have hfront : calls = (before ++ [(now, .compile view)]) ++ after := by simpa using hcalls
    have hapart' := (hfront ▸ hapart).mono fun v => mem_views_append_left after
    obtain ⟨c, hsound⟩ := exists_sound (f := f) lifetime
      (hapart'.mono fun v => mem_views_append_left _)
    obtain ⟨c', hstep⟩ := hsound.step_concat hapart'
    rw [calls_concat]
    exact hstep.entries_of_error hsound.cache hf
  · exact ⟨c.statistics, by rw [hsound.cache]; rfl, hsound.requests⟩
  · rintro rfl before middle after rfl hflush
    obtain ⟨c, run, -, -, hrun, honce⟩ := exists_runOnce (f := f)
      (hapart.mono fun v => mem_views_append_left after) hflush
    exact ⟨run, hrun, honce.nodup⟩

/-- The output of a view is its contents; an empty view has none. -/
def plainOutput (view : View) : Except Unit String :=
  if view.contents = "" then .error () else .ok view.contents

/-- Views whose names and contents differ only in where they are split. -/
def splitViews : View × View :=
  ({ name := "a", contents := "bc" },
    { name := "ab", contents := "c", vars := [("x", .number (.float 0.5)), ("y", .text "\"")],
      distinct := List.nodup_cons.2 ⟨by decide, List.nodup_singleton _⟩ })

/-- Requests for both of them and for an empty view, with a flush in between. -/
def splitCalls : CacheCalls :=
  [(0, .compile splitViews.1), (1, .compile splitViews.2), (2, .has splitViews.1),
    (3, .compile splitViews.1), (4, .compile { contents := "" }), (5, .cleanUp), (6, .flush),
    (7, .compile splitViews.1)]

theorem cached_compilation_split :
    (∀ v ∈ splitCalls.views, v.FitsFields) ∧
    (∀ u ∈ splitCalls.views, ∀ w ∈ splitCalls.views, u.DigestApart w) ∧
    ((start none).calls plainOutput splitCalls).answers =
      splitCalls.compiled.map (fun v => (v, plainOutput v)) ∧
    (∃ statistics, ((start none).calls plainOutput splitCalls).cache.statistics? = some statistics ∧
      statistics.total = 5) := by
  have hfits : ∀ v ∈ splitCalls.views, v.FitsFields := by
    unfold View.FitsFields View.FitsField
    decide +kernel
  have hdigest : ∀ u ∈ splitCalls.views, ∀ w ∈ splitCalls.views, u.DigestApart w := by
    unfold View.DigestApart
    decide +kernel
  obtain ⟨hanswers, -, -, -, -, htotal, -⟩ :=
    cached_compilation plainOutput none splitCalls hfits hdigest
  exact ⟨hfits, hdigest, hanswers, htotal⟩

end ViewTemplate
