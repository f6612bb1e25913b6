import Mathlib.Data.List.TakeWhile
import BuilderRelay.Beacon.Client

/-!
# A route behind an address

What becomes of an address when a route is appended to its text. The parts up to the path do not
change, as long as there is a host or the path has no hierarchy. The path goes on with the route,
but if the address has a query or a fragment, the route becomes a part of that and the path stays.
-/

namespace BuilderRelay.Url

/-- The characters of the route. -/
def route : List Char := BeaconClient.syncingRoute.toList

/-- Whether `suffix` is the route, set off from the text before it by one slash. -/
def Joins (text suffix : List Char) : Prop :=
  suffix = '/' :: route ∨ suffix = route ∧ text.getLast? = some '/'

variable {l l' suffix : List Char} {p : Char → Bool}

theorem Joins.of_suffix (h : Joins l suffix) (hl : l' <:+ l) (hne : l' ≠ []) : Joins l' suffix := by
  rcases h with h | ⟨h, hlast⟩
  · exact .inl h
  · obtain ⟨before, rfl⟩ := hl
    rw [List.getLast?_append, List.getLast?_eq_some_getLast hne, Option.some_or] at hlast
    rw [← List.getLast?_eq_some_getLast hne] at hlast
    exact .inr ⟨h, hlast⟩

theorem Joins.exists_base (h : Joins l suffix) : ∃ base, l ++ suffix = base ++ '/' :: route := by
  rcases h with rfl | ⟨rfl, hlast⟩
  · exact ⟨l, rfl⟩
  · obtain ⟨base, rfl⟩ := List.getLast?_eq_some_iff.mp hlast
    exact ⟨base, by simp⟩

/-! ## Where a scan stops -/

/-- A scan that stops in the text, or right behind it, stops there whatever comes later. -/
theorem scan_append (h : (∃ c ∈ l, p c = false) ∨ ∀ c ∈ suffix.head?, p c = false) :
    (l ++ suffix).takeWhile p = l.takeWhile p ∧
      (l ++ suffix).dropWhile p = l.dropWhile p ++ suffix := by
  induction l with
  | nil =>
      cases suffix with
      | nil => simp
      | cons c suffix =>
          have hc : p c = false := by simpa using h
          simp [hc]
  | cons c l ih =>
      by_cases hc : p c
      · have hstop : (∃ c ∈ l, p c = false) ∨ ∀ c ∈ suffix.head?, p c = false := by
          simpa [hc] using h
        simpa [hc] using ih hstop
      · simp [hc]

theorem Joins.scan (h : Joins l suffix) (hp : p '/' = false) :
    (l ++ suffix).takeWhile p = l.takeWhile p ∧
      (l ++ suffix).dropWhile p = l.dropWhile p ++ suffix := by
  apply scan_append
  rcases h with rfl | ⟨-, hlast⟩
  · simpa using .inr hp
  · exact .inl ⟨'/', List.mem_of_getLast? hlast, hp⟩

theorem Joins.dropWhile (h : Joins l suffix) (hp : p '/' = false) :
    Joins (l.dropWhile p) suffix := by
  rcases h with h | ⟨h, hlast⟩
  · exact .inl h
  · refine Joins.of_suffix (.inr ⟨h, hlast⟩) (List.dropWhile_suffix p) fun hnil => ?_
    have hall := List.dropWhile_eq_nil_iff.mp hnil '/' (List.mem_of_getLast? hlast)
    rw [hp] at hall
    cases hall

/-- Whether the text has a query or a fragment. -/
def Marked (l : List Char) : Prop := ∃ c ∈ l, isPathEnd c

theorem marked_dropWhile (hp : ∀ c, p c → isPathEnd c = false) :
    Marked (l.dropWhile p) ↔ Marked l := by
  induction l with
  | nil => simp
  | cons c l ih =>
      by_cases hc : p c
      · simp [Marked, hc, hp c hc] at ih ⊢
        exact ih
      · simp [hc]

theorem isPathEnd_of_mem_suffix (h : Joins l suffix) : ∀ c ∈ suffix, isPathEnd c = false := by
  have hall : suffix.all (!isPathEnd ·) := by rcases h with rfl | ⟨rfl, -⟩ <;> rfl
  simpa using hall

/-- Where the path of a text ends once the route is behind it. -/
theorem path_of_marked (hmarked : Marked l) :
    (l ++ suffix).takeWhile (!isPathEnd ·) = l.takeWhile (!isPathEnd ·) := by
  obtain ⟨c, hc, hend⟩ := hmarked
  exact (scan_append (.inl ⟨c, hc, by simp [hend]⟩)).1

theorem takeWhile_of_plain (h : ¬ Marked l) : l.takeWhile (!isPathEnd ·) = l := by
  rw [List.takeWhile_eq_self_iff]
  intro c hc
  have hend : ¬ isPathEnd c := fun hend => h ⟨c, hc, hend⟩
  simp [hend]

theorem Joins.not_marked (h : Joins l suffix) (hplain : ¬ Marked l) : ¬ Marked (l ++ suffix) := by
  rintro ⟨c, hc, hend⟩
  rcases List.mem_append.mp hc with hc | hc
  · exact hplain ⟨c, hc, hend⟩
  · rw [isPathEnd_of_mem_suffix h c hc] at hend
    cases hend

/-! ## Paths -/

theorem splitSegments_ne_nil (special : Bool) (cs : List Char) : splitSegments special cs ≠ [] := by
  cases cs with
  | nil => simp [splitSegments]
  | cons c cs =>
      simp only [splitSegments, List.foldr_cons]
      split
      · simp
      · split <;> simp

theorem splitSegments_cons (special : Bool) (c : Char) (cs : List Char) :
    splitSegments special (c :: cs) =
      if isSlash special c then [] :: splitSegments special cs
      else match splitSegments special cs with
        | part :: rest => (c :: part) :: rest
        | [] => [[c]] := rfl

theorem splitSegments_slash (special : Bool) (cs ds : List Char) :
    splitSegments special (cs ++ '/' :: ds) =
      splitSegments special cs ++ splitSegments special ds := by
  induction cs with
  | nil => simp [isSlash, splitSegments]
  | cons c cs ih =>
      rw [List.cons_append, splitSegments_cons, splitSegments_cons, ih]
      by_cases hc : isSlash special c
      · simp [hc]
      · obtain ⟨part, rest, hparts⟩ :=
          List.exists_cons_of_ne_nil (splitSegments_ne_nil special cs)
        simp [hc, hparts]

/-- The segments of the route. -/
def routeSegments : List (List Char) := splitSegments false route

theorem splitSegments_route (special : Bool) : splitSegments special route = routeSegments := by
  cases special <;> decide

/-- Segments that lead nowhere else stay at the end, whatever comes before them. -/
theorem normalSegments_route (segments done : List (List Char)) :
    ∃ before, normalSegments done (segments ++ routeSegments) = before ++ routeSegments := by
  induction segments generalizing done with
  | nil =>
      have hroute : routeSegments =
          ["eth".toList, "v1".toList, "node".toList, "syncing".toList] := by decide
      refine ⟨done.reverse, ?_⟩
      rw [hroute]
      simp [normalSegments, plainDots]
  | cons segment segments ih =>
      have hne : segments ++ routeSegments ≠ [] := by simp [routeSegments, splitSegments_ne_nil]
      obtain ⟨next, rest, hnext⟩ := List.exists_cons_of_ne_nil hne
      rw [List.cons_append, hnext]
      simp only [normalSegments]
      rw [← hnext]
      split
      · exact ih _
      · split
        · exact ih _
        · exact ih _

/-- A path that goes on with the route ends with it. -/
theorem pathText_route (special : Bool) {cs : List Char}
    (h : cs = route ∨ ∃ base, cs = base ++ '/' :: route) :
    ∃ base, pathText special cs = base ++ "/eth/v1/node/syncing" := by
  have hsegments : ∃ before, splitSegments special cs = before ++ routeSegments := by
    rcases h with rfl | ⟨base, rfl⟩
    · exact ⟨[], splitSegments_route special⟩
    · exact ⟨splitSegments special base, by rw [splitSegments_slash, splitSegments_route]⟩
  obtain ⟨before, hbefore⟩ := hsegments
  obtain ⟨base, hbase⟩ := normalSegments_route before []
  have hroute : routeSegments.flatMap (fun segment => '/' :: Percent.encode Percent.inPath segment) =
      "/eth/v1/node/syncing".toList := by decide
  refine ⟨.ofList (base.flatMap fun segment => '/' :: Percent.encode Percent.inPath segment), ?_⟩
  rw [pathText, hbefore, hbase, List.flatMap_append, hroute, String.ofList_append,
    String.ofList_toList]

/-! ## Authorities -/

theorem readHostPort_nil {scheme : String} {found : Option Host × Option Nat}
    (h : readHostPort scheme [] = .ok found) : found.1 = none := by
  cases hspecial : isSpecial scheme with
  | true => simp [readHostPort, hostLength, hspecial, bind, Except.bind] at h
  | false =>
      simp [readHostPort, hostLength, hspecial, Host.readOpaque, bind, Except.bind, pure,
        Except.pure] at h
      rw [← h]

/-- The host of an authority is the one of its text behind the userinfo. -/
theorem host_of_readAuthority {scheme : String} {more : Bool} {cs : List Char} {a : Authority}
    (h : readAuthority scheme more cs = .ok a) :
    ∃ found, readHostPort scheme (splitUserinfo cs).2 = .ok found ∧ a.host = found.1 := by
  rcases hsplit : splitUserinfo cs with ⟨userinfo, hostText⟩
  cases hfound : readHostPort scheme hostText with
  | error fault =>
      cases userinfo with
      | none => simp [readAuthority, hsplit, hfound, bind, Except.bind] at h
      | some userinfo =>
          simp only [readAuthority, hsplit, hfound, bind, Except.bind] at h
          split at h <;> cases h
  | ok found =>
      refine ⟨found, rfl, ?_⟩
      cases userinfo with
      | none =>
          simp only [readAuthority, hsplit, hfound, bind, Except.bind, pure, Except.pure,
            Except.ok.injEq] at h
          rw [← h]
      | some userinfo =>
          simp only [readAuthority, hsplit, hfound, bind, Except.bind, pure, Except.pure] at h
          split at h
          · cases h
          · split at h
            · cases h
            · rw [← Except.ok.inj h]

/-- An authority with a host is read the same whether or not anything follows it. -/
theorem readAuthority_more {scheme : String} {more : Bool} {cs : List Char} {a : Authority}
    (h : readAuthority scheme more cs = .ok a) (hhost : a.host.isSome) (more' : Bool) :
    readAuthority scheme more' cs = .ok a := by
  obtain ⟨found, hfound, heq⟩ := host_of_readAuthority h
  rcases hsplit : splitUserinfo cs with ⟨userinfo, hostText⟩
  have hne : hostText ≠ [] := by
    rintro rfl
    rw [hsplit] at hfound
    rw [heq, readHostPort_nil hfound] at hhost
    cases hhost
  have hif : ∀ (userinfo : List Char) more,
      ¬ (userinfo.isEmpty ∧ hostText.isEmpty ∧ more = true) := by simp [hne]
  cases userinfo with
  | none => simpa only [readAuthority, hsplit] using h
  | some userinfo => simpa only [readAuthority, hsplit, if_neg (hif userinfo _)] using h

/-- What an address becomes with the route behind it. -/
structure Continues (text : List Char) (u u' : Url) : Prop where
  scheme_eq : u'.scheme = u.scheme
  host_eq : u'.host = u.host
  port_eq : u'.port = u.port
  path_of_marked : Marked text → u'.path = u.path
  path_of_plain : ¬ Marked text → ∃ base, u'.path = base ++ "/eth/v1/node/syncing"

theorem Continues.congr {u u' : Url} (h : Continues l u u') (hmarked : Marked l ↔ Marked l') :
    Continues l' u u' where
  scheme_eq := h.scheme_eq
  host_eq := h.host_eq
  port_eq := h.port_eq
  path_of_marked hm := h.path_of_marked (hmarked.mpr hm)
  path_of_plain hm := h.path_of_plain fun hl => hm (hmarked.mp hl)

theorem pathAfterAuthority_route (special : Bool) {cs : List Char}
    (h : ∃ base, cs = base ++ '/' :: route) :
    ∃ base, pathAfterAuthority special cs = base ++ "/eth/v1/node/syncing" := by
  obtain ⟨base, rfl⟩ := h
  cases base with
  | nil => exact pathText_route special (.inl rfl)
  | cons c base =>
      rw [List.cons_append, pathAfterAuthority]
      split
      · exact pathText_route special (.inr ⟨base, rfl⟩)
      · exact pathText_route special (.inr ⟨c :: base, rfl⟩)

theorem afterSlashes_append {scheme : String} {u : Url} (h : afterSlashes scheme l = .ok u)
    (hhost : u.host.isSome) (hjoin : Joins l suffix) :
    ∃ u', afterSlashes scheme (l ++ suffix) = .ok u' ∧ Continues l u u' := by
  have hslash : (!isAuthorityEnd (isSpecial scheme) '/') = false := by
    simp [isAuthorityEnd, isSlash]
  obtain ⟨htake, hdrop⟩ := hjoin.scan (p := (!isAuthorityEnd (isSpecial scheme) ·)) hslash
  have hrest := hjoin.dropWhile (p := (!isAuthorityEnd (isSpecial scheme) ·)) hslash
  have hmarked : Marked (l.dropWhile (!isAuthorityEnd (isSpecial scheme) ·)) ↔ Marked l := by
    apply marked_dropWhile
    simp [isAuthorityEnd]
  cases hauthority : readAuthority scheme
      (!(l.dropWhile (!isAuthorityEnd (isSpecial scheme) ·)).isEmpty)
      (l.takeWhile (!isAuthorityEnd (isSpecial scheme) ·)) with
  | error fault => simp [afterSlashes, hauthority, bind, Except.bind] at h
  | ok authority =>
      simp only [afterSlashes, hauthority, bind, Except.bind, pure, Except.pure,
        Except.ok.injEq] at h
      subst h
      have hmore := readAuthority_more hauthority hhost
      simp only [afterSlashes, htake, hdrop, hmore, bind, Except.bind, pure, Except.pure]
      refine ⟨_, rfl, rfl, rfl, rfl, fun hm => ?_, fun hm => ?_⟩
      · simp only [path_of_marked (hmarked.mpr hm)]
      · simp only [takeWhile_of_plain (hrest.not_marked (fun h => hm (hmarked.mp h)))]
        exact pathAfterAuthority_route _ hrest.exists_base

theorem afterSlashes_nil {scheme : String} {u : Url} (h : afterSlashes scheme [] = .ok u) :
    u.host = none := by
  cases hauthority : readAuthority scheme false [] with
  | error fault => simp [afterSlashes, hauthority, bind, Except.bind] at h
  | ok authority =>
      obtain ⟨found, hfound, hhost⟩ := host_of_readAuthority hauthority
      simp [afterSlashes, hauthority, bind, Except.bind, pure, Except.pure] at h
      rw [← h]
      exact hhost.trans (readHostPort_nil hfound)

theorem opaquePath_afterSlashes {scheme : String} {u : Url} (h : afterSlashes scheme l = .ok u) :
    u.opaquePath = false := by
  cases hauthority : readAuthority scheme
      (!(l.dropWhile (!isAuthorityEnd (isSpecial scheme) ·)).isEmpty)
      (l.takeWhile (!isAuthorityEnd (isSpecial scheme) ·)) with
  | error fault => simp [afterSlashes, hauthority, bind, Except.bind] at h
  | ok authority =>
      simp only [afterSlashes, hauthority, bind, Except.bind, pure, Except.pure,
        Except.ok.injEq] at h
      rw [← h]

/-! ## Addresses without authority -/

/-- A path without hierarchy goes on with the route as it stands. -/
theorem withoutAuthority_append {scheme : String}
    (hflat : (withoutAuthority scheme l).opaquePath) (hjoin : Joins l suffix) :
    Continues l (withoutAuthority scheme l) (withoutAuthority scheme (l ++ suffix)) := by
  refine ⟨rfl, rfl, rfl, fun hm => ?_, fun hm => ?_⟩
  · simp only [withoutAuthority, path_of_marked hm]
  · simp only [withoutAuthority, takeWhile_of_plain hm] at hflat
    simp only [withoutAuthority, takeWhile_of_plain (hjoin.not_marked hm)]
    cases l with
    | nil =>
        obtain rfl : suffix = '/' :: route := by simpa [Joins] using hjoin
        exact pathText_route _ (.inl rfl)
    | cons c l =>
        have hc : c ≠ '/' := by
          rintro rfl
          simp at hflat
        have hspecial : isSpecial scheme = false := by
          cases hspecial : isSpecial scheme with
          | false => rfl
          | true => simp [hc, hspecial] at hflat
        have hencode : Percent.encode Percent.isControl ('/' :: route) =
            "/eth/v1/node/syncing".toList := by decide
        obtain ⟨base, hbase⟩ := hjoin.exists_base
        refine ⟨.ofList (Percent.encode Percent.isControl base), ?_⟩
        have hjoined : Percent.encode Percent.isControl (c :: l ++ suffix) =
            Percent.encode Percent.isControl base ++ "/eth/v1/node/syncing".toList := by
          rw [hbase, ← hencode]
          simp [Percent.encode]
        rw [List.cons_append] at hjoined ⊢
        simp only [hspecial, Bool.false_eq_true, if_false]
        split
        · rename_i hslash
          exact absurd (List.cons.inj hslash).1 hc
        · rw [hjoined, String.ofList_append, String.ofList_toList]

/-- A path without hierarchy has no slash in front, and gets one at most. -/
theorem not_two_slashes {scheme : String} (hflat : (withoutAuthority scheme l).opaquePath)
    (hjoin : Joins l suffix) (rest : List Char) : l ++ suffix ≠ '/' :: '/' :: rest := by
  intro hslashes
  cases l with
  | nil =>
      obtain rfl : suffix = '/' :: route := by simpa [Joins] using hjoin
      have hsecond := congrArg (·[1]?) hslashes
      exact absurd hsecond (by simp; decide)
  | cons c l =>
      obtain ⟨rfl, -⟩ := List.cons.inj hslashes
      have hslash : isPathEnd '/' = false := by decide
      simp [withoutAuthority, hslash] at hflat

/-- What is left of a path behind its first slashes. -/
theorem dropWhile_slash_route (base : List Char) :
    (base ++ '/' :: route).dropWhile (isSlash true ·) = route ∨
      ∃ base', (base ++ '/' :: route).dropWhile (isSlash true ·) = base' ++ '/' :: route := by
  induction base with
  | nil => exact .inl (by decide)
  | cons c base ih =>
      by_cases hc : isSlash true c
      · simpa [hc] using ih
      · exact .inr ⟨c :: base, by simp [hc]⟩

theorem isPathEnd_of_isSlash {special : Bool} : ∀ c, isSlash special c → isPathEnd c = false := by
  intro c hc
  simp only [isSlash, Bool.or_eq_true, Bool.and_eq_true, decide_eq_true_eq] at hc
  rcases hc with rfl | ⟨-, rfl⟩ <;> decide

/-- The path of a file, given by what stands behind the host. -/
def filePath (cs : List Char) : String :=
  (withoutAuthority "file" ('/' :: cs.dropWhile (isSlash true ·))).path

theorem filePath_eq (cs : List Char) :
    filePath cs = pathText true ((cs.dropWhile (isSlash true ·)).takeWhile (!isPathEnd ·)) := by
  have hslash : isPathEnd '/' = false := by decide
  simp only [filePath, withoutAuthority, List.takeWhile_cons, hslash]
  rfl

theorem filePath_of_marked (hmarked : Marked l) : filePath (l ++ suffix) = filePath l := by
  have hbelow : Marked (l.dropWhile (isSlash true ·)) :=
    (marked_dropWhile isPathEnd_of_isSlash).mpr hmarked
  obtain ⟨c, hc, hend⟩ := hmarked
  have hslash : isSlash true c = false := by
    cases hslash : isSlash true c with
    | false => rfl
    | true => simp [isPathEnd_of_isSlash c hslash] at hend
  rw [filePath_eq, filePath_eq, (scan_append (.inl ⟨c, hc, hslash⟩)).2, path_of_marked hbelow]

theorem filePath_of_plain (hjoin : Joins l suffix) (hplain : ¬ Marked l) :
    ∃ base, filePath (l ++ suffix) = base ++ "/eth/v1/node/syncing" := by
  have hbelow : ¬ Marked ((l ++ suffix).dropWhile (isSlash true ·)) := by
    rw [marked_dropWhile isPathEnd_of_isSlash]
    exact hjoin.not_marked hplain
  obtain ⟨base, hbase⟩ := hjoin.exists_base
  rw [filePath_eq, takeWhile_of_plain hbelow, hbase]
  exact pathText_route true (dropWhile_slash_route base)

theorem readFile_append {u : Url} (h : readFile l = .ok u) (hhost : u.host.isSome)
    (hjoin : Joins l suffix) :
    ∃ u', readFile (l ++ suffix) = .ok u' ∧ Continues l u u' := by
  unfold readFile at h
  split at h
  · rename_i a b r
    split at h
    · rename_i hslashes
      simp only [bind, Except.bind, pure, Except.pure] at h
      split at h
      · obtain rfl := Except.ok.inj h
        cases hhost
      · rename_i hname
        split at h
        · cases h
        · rename_i host hread
          have hne : r ≠ [] := by
            rintro rfl
            simp at hname
          have hbelow : Joins r suffix := hjoin.of_suffix ⟨[a, b], rfl⟩ hne
          have hstop : (!isAuthorityEnd true '/') = false := by decide
          obtain ⟨htake, hdrop⟩ := hbelow.scan (p := (!isAuthorityEnd true ·)) hstop
          have hpath := hbelow.dropWhile (p := (!isAuthorityEnd true ·)) hstop
          have hmarked : Marked (r.dropWhile (!isAuthorityEnd true ·)) ↔ Marked (a :: b :: r) := by
            rw [marked_dropWhile (by simp [isAuthorityEnd])]
            simp [Marked, isPathEnd_of_isSlash _ hslashes.1, isPathEnd_of_isSlash _ hslashes.2]
          obtain rfl := Except.ok.inj h
          simp only [readFile, List.cons_append, if_pos hslashes, bind, Except.bind, pure,
            Except.pure, htake, hdrop, if_neg hname, hread]
          refine ⟨_, rfl, rfl, rfl, rfl, fun hm => ?_, fun hm => ?_⟩
          · exact filePath_of_marked (hmarked.mpr hm)
          · exact filePath_of_plain hpath fun h => hm (hmarked.mp h)
    · obtain rfl := Except.ok.inj h
      cases hhost
  · obtain rfl := Except.ok.inj h
    cases hhost

theorem opaquePath_withoutAuthority {scheme : String} (h : isSpecial scheme) (cs : List Char) :
    (withoutAuthority scheme cs).opaquePath = false := by
  unfold withoutAuthority
  simp only [h, if_true]
  split <;> rfl

theorem opaquePath_readFile {u : Url} (h : readFile l = .ok u) : u.opaquePath = false := by
  have hfile : ∀ cs, (withoutAuthority "file" cs).opaquePath = false :=
    opaquePath_withoutAuthority (by decide)
  unfold readFile at h
  simp only [bind, Except.bind, pure, Except.pure] at h
  split at h
  · split at h
    · split at h
      · rw [← Except.ok.inj h]
        exact hfile _
      · split at h
        · cases h
        · rw [← Except.ok.inj h]
          dsimp only
          exact hfile _
    · rw [← Except.ok.inj h]
      exact hfile _
  · rw [← Except.ok.inj h]
    exact hfile _

/-! ## The characters that count -/

theorem significant_of_last {text : String}
    (h : ∀ c ∈ text.toList.getLast?, isEdge c = false) :
    significant text = (text.toList.dropWhile isEdge).filter (!isIgnored ·) := by
  have hlast : ∀ c ∈ (text.toList.dropWhile isEdge).reverse.head?, isEdge c = false := by
    intro c hc
    rw [List.head?_reverse] at hc
    obtain ⟨before, hbefore⟩ := List.dropWhile_suffix (l := text.toList) isEdge
    apply h
    rw [← hbefore, List.getLast?_append, hc]
    rfl
  have hkeep : (text.toList.dropWhile isEdge).reverse.dropWhile isEdge =
      (text.toList.dropWhile isEdge).reverse := by
    cases hreverse : (text.toList.dropWhile isEdge).reverse with
    | nil => rfl
    | cons c rest =>
        rw [hreverse] at hlast
        simp [hlast c rfl]
  rw [significant, hkeep, List.reverse_reverse]

theorem Joins.suffix_plain (h : Joins l suffix) :
    suffix.filter (!isIgnored ·) = suffix ∧ suffix.getLast? = some 'g' := by
  rcases h with rfl | ⟨rfl, -⟩ <;> exact ⟨rfl, rfl⟩

section

variable {text added : String}

theorem marked_significant (h : ∀ c ∈ text.toList.getLast?, isEdge c = false) :
    Marked (significant text) ↔ Marked text.toList := by
  have hedge : ∀ c, isEdge c → isPathEnd c = false := by
    intro c hc
    cases hend : isPathEnd c with
    | false => rfl
    | true =>
        simp only [isPathEnd, Bool.or_eq_true, decide_eq_true_eq] at hend
        rcases hend with rfl | rfl <;> exact absurd hc (by decide)
  have hkept : ∀ c, isPathEnd c → isIgnored c = false := by
    intro c hend
    simp only [isPathEnd, Bool.or_eq_true, decide_eq_true_eq] at hend
    rcases hend with rfl | rfl <;> decide
  rw [significant_of_last h, ← marked_dropWhile (l := text.toList) hedge]
  simp only [Marked, List.mem_filter, Bool.not_eq_true']
  exact exists_congr fun c =>
    ⟨fun ⟨⟨hc, _⟩, hend⟩ => ⟨hc, hend⟩, fun ⟨hc, hend⟩ => ⟨⟨hc, hkept c hend⟩, hend⟩⟩

theorem Joins.significant (h : ∀ c ∈ text.toList.getLast?, isEdge c = false)
    (hjoin : Joins text.toList suffix) : Joins (significant text) suffix := by
  have hslash : isEdge '/' = false := by decide
  rw [significant_of_last h]
  rcases hjoin.dropWhile hslash with hjoin | ⟨hroute, hlast⟩
  · exact .inl hjoin
  · obtain ⟨base, hbase⟩ := List.getLast?_eq_some_iff.mp hlast
    refine .inr ⟨hroute, ?_⟩
    rw [hbase, List.filter_append, show ['/'].filter (!isIgnored ·) = ['/'] from by decide,
      List.getLast?_concat]

theorem significant_append (hne : text ≠ "")
    (h : ∀ c ∈ text.toList.getLast?, isEdge c = false)
    (hjoin : Joins text.toList added.toList) :
    Url.significant (text ++ added) = Url.significant text ++ added.toList := by
  obtain ⟨hkeep, hend⟩ := hjoin.suffix_plain
  have hnil : text.toList ≠ [] := by simpa using hne
  have hmem := List.getLast_mem hnil
  have hstop := h _ (List.getLast?_eq_some_getLast hnil)
  have hdrop : (text.toList ++ added.toList).dropWhile isEdge = _ :=
    (scan_append (.inl ⟨_, hmem, hstop⟩)).2
  have hlast : ∀ c ∈ (text ++ added).toList.getLast?, isEdge c = false := by
    intro c hc
    rw [String.toList_append, List.getLast?_append, hend, Option.some_or] at hc
    obtain rfl := Option.some.inj hc
    decide
  rw [significant_of_last hlast, significant_of_last h, String.toList_append, hdrop,
    List.filter_append, hkeep]

end

/-! ## The whole address -/

theorem splitScheme_append {scheme : String} {rest : List Char}
    (h : splitScheme l = some (scheme, rest)) (hjoin : Joins l suffix) :
    splitScheme (l ++ suffix) = some (scheme, rest ++ suffix) ∧ Joins rest suffix ∧
      (Marked rest ↔ Marked l) := by
  have hslash : isSchemeChar '/' = false := by decide
  obtain ⟨htake, hdrop⟩ := hjoin.scan hslash
  have hrest := hjoin.dropWhile hslash
  have hmarked : Marked (l.dropWhile isSchemeChar) ↔ Marked l := by
    apply marked_dropWhile
    intro c hc
    cases hend : isPathEnd c with
    | false => rfl
    | true =>
        simp only [isPathEnd, Bool.or_eq_true, decide_eq_true_eq] at hend
        rcases hend with rfl | rfl <;> exact absurd hc (by decide)
  unfold splitScheme at h ⊢
  rw [htake, hdrop]
  split at h
  · rename_i rest' hcolon
    rw [hcolon] at hrest hmarked ⊢
    dsimp only at h ⊢
    split at h
    · rename_i halpha
      obtain ⟨rfl, rfl⟩ := Prod.mk.inj (Option.some.inj h)
      refine ⟨?_, ?_, ?_⟩
      · simp only [List.cons_append, if_pos halpha]
      · cases rest' with
        | nil => simpa [Joins] using hrest
        | cons c rest' => exact hrest.of_suffix ⟨[':'], rfl⟩ (by simp)
      · rw [← hmarked]
        simp [Marked, isPathEnd]
    · cases h
  · cases h

/-- What stands behind slashes is read as before, with the route behind it. -/
theorem afterSlashes_below {scheme : String} {u : Url} (h : afterSlashes scheme l' = .ok u)
    (hhost : u.host.isSome ∨ u.opaquePath) (hl : l' <:+ l) (hjoin : Joins l suffix)
    (hmarked : Marked l' ↔ Marked l) :
    l' ≠ [] ∧ ∃ u', afterSlashes scheme (l' ++ suffix) = .ok u' ∧ Continues l u u' := by
  have hhost' : u.host.isSome := by simpa [opaquePath_afterSlashes h] using hhost
  have hne : l' ≠ [] := by
    rintro rfl
    rw [afterSlashes_nil h] at hhost'
    cases hhost'
  obtain ⟨u', hread, hcontinues⟩ := afterSlashes_append h hhost' (hjoin.of_suffix hl hne)
  exact ⟨hne, u', hread, hcontinues.congr hmarked⟩

/-- An address with a host, or with a path without hierarchy, stays one with a route behind it. -/
theorem readUrl_append {text added : String} {u : Url} (h : readUrl text = .ok u)
    (hhost : u.host.isSome ∨ u.opaquePath)
    (hlast : ∀ c ∈ text.toList.getLast?, isEdge c = false)
    (hjoin : Joins text.toList added.toList) :
    ∃ u', readUrl (text ++ added) = .ok u' ∧ Continues text.toList u u' := by
  have hne : text ≠ "" := by
    rintro rfl
    simp [readUrl, significant, splitScheme] at h
  rcases hsplit : splitScheme (significant text) with _ | ⟨scheme, rest⟩
  · simp [readUrl, hsplit] at h
  obtain ⟨hsplit', hrest, hmarked⟩ := splitScheme_append hsplit (hjoin.significant hlast)
  rw [marked_significant hlast] at hmarked
  simp only [readUrl, hsplit, significant_append hne hlast hjoin, hsplit'] at h ⊢
  by_cases hfile : scheme = "file"
  · rw [if_pos hfile] at h ⊢
    have hhost' : u.host.isSome := by simpa [opaquePath_readFile h] using hhost
    obtain ⟨u', hread, hcontinues⟩ := readFile_append h hhost' hrest
    exact ⟨u', hread, hcontinues.congr hmarked⟩
  rw [if_neg hfile] at h ⊢
  by_cases hspecial : isSpecial scheme
  · rw [if_pos hspecial] at h ⊢
    obtain ⟨hbelow, u', hread, hcontinues⟩ := afterSlashes_below h hhost
      (List.dropWhile_suffix _) hrest (marked_dropWhile isPathEnd_of_isSlash)
    have hstop : ∃ c ∈ rest, isSlash true c = false := by
      by_contra hall
      apply hbelow
      rw [List.dropWhile_eq_nil_iff]
      intro c hc
      by_contra hslash
      exact hall ⟨c, hc, Bool.eq_false_iff.mpr hslash⟩
    rw [(scan_append (.inl hstop)).2]
    exact ⟨u', hread, hcontinues.congr hmarked⟩
  rw [if_neg hspecial] at h ⊢
  split at h
  · rename_i r
    have hslashes : Marked r ↔ Marked ('/' :: '/' :: r) := by simp [Marked, isPathEnd]
    obtain ⟨-, u', hread, hcontinues⟩ := afterSlashes_below h hhost ⟨['/', '/'], rfl⟩ hrest hslashes
    exact ⟨u', hread, hcontinues.congr hmarked⟩
  · obtain rfl := Except.ok.inj h
    have hflat : (withoutAuthority scheme rest).opaquePath := by
      simpa [withoutAuthority] using hhost
    split
    · rename_i hslashes
      exact absurd hslashes (not_two_slashes hflat hrest _)
    · exact ⟨_, rfl, (withoutAuthority_append hflat hrest).congr hmarked⟩

end BuilderRelay.Url
