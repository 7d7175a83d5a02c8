import Mathlib.Data.List.TakeWhile
import MobileMoney.Http.Target

/-!
# Targets below a base URL

A URL is often made of a base URL, a slash and a path.  What a server sees of it is the path of the
base, with its dot segments resolved, and the segments of the path resolved on top of it.
-/

namespace MobileMoney.Http

/-! ## Cuts at a character -/

section

variable {p : Char → Bool} {c : Char}

theorem dropWhile_append_cons (h : p c = false) (before after : List Char) :
    (before ++ c :: after).dropWhile p = before.dropWhile p ++ c :: after := by
  rw [List.dropWhile_append]
  split
  · next hnil =>
    rw [List.isEmpty_iff.mp hnil, List.dropWhile_cons_of_neg (by simp [h]), List.nil_append]
  · rfl

theorem takeWhile_append_cons (h : p c = false) (before after : List Char) :
    (before ++ c :: after).takeWhile p = before.takeWhile p := by
  induction before with
  | nil => simp [h]
  | cons d before ih => cases hd : p d <;> simp [hd, ih]

end

/-! ## Cleaned texts -/

/-- What is left of the end of a URL. -/
def cleanedEnd (path : List Char) : List Char :=
  (path.reverse.dropWhile isControlOrSpace).reverse.filter fun c ↦ !isTabOrLineEnd c

/-- What is left of the beginning of a URL. -/
def cleanedFront (base : List Char) : List Char :=
  (base.dropWhile isControlOrSpace).filter fun c ↦ !isTabOrLineEnd c

theorem cleanedEnd_append_slash (before path : List Char) :
    cleanedEnd (before ++ '/' :: path) =
      before.filter (fun c ↦ !isTabOrLineEnd c) ++ '/' :: cleanedEnd path := by
  have hslash : isControlOrSpace '/' = false := by decide
  calc
    cleanedEnd (before ++ '/' :: path) =
        ((path.reverse ++ '/' :: before.reverse).dropWhile isControlOrSpace).reverse.filter
          (fun c ↦ !isTabOrLineEnd c) := by simp [cleanedEnd]
    _ = (before ++ '/' :: (path.reverse.dropWhile isControlOrSpace).reverse).filter
          (fun c ↦ !isTabOrLineEnd c) := by rw [dropWhile_append_cons hslash]; simp
    _ = _ := by rw [List.filter_append, List.filter_cons_of_pos (by decide), cleanedEnd]

theorem cleaned_append_slash (base path : String) :
    cleaned (base ++ "/" ++ path) = cleanedFront base.toList ++ '/' :: cleanedEnd path.toList := by
  have hurl : (base ++ "/" ++ path).toList = base.toList ++ '/' :: path.toList := by simp
  calc
    cleaned (base ++ "/" ++ path) =
        cleanedEnd ((base.toList ++ '/' :: path.toList).dropWhile isControlOrSpace) := by
      rw [← hurl]
      rfl
    _ = cleanedEnd (base.toList.dropWhile isControlOrSpace ++ '/' :: path.toList) := by
      rw [dropWhile_append_cons (by decide)]
    _ = _ := cleanedEnd_append_slash _ _

theorem mem_of_mem_cleanedFront {c : Char} {base : List Char} (h : c ∈ cleanedFront base) :
    c ∈ base :=
  (List.dropWhile_sublist _).subset (List.mem_filter.mp h).1

theorem dropEnd_sublist (path : List Char) :
    (path.reverse.dropWhile isControlOrSpace).reverse.Sublist path := by
  rw [← List.reverse_sublist, List.reverse_reverse]
  exact List.dropWhile_sublist _

theorem cleanedEnd_sublist (path : List Char) : (cleanedEnd path).Sublist path :=
  List.filter_sublist.trans (dropEnd_sublist path)

/-- Nothing is removed from a text without tabs and line ends that ends with a visible character. -/
theorem cleanedEnd_eq_self_iff {path : List Char} :
    cleanedEnd path = path ↔
      (∀ c ∈ path, isTabOrLineEnd c = false) ∧ ∀ c ∈ path.getLast?, isControlOrSpace c = false := by
  constructor
  · intro h
    have hlength : path.length ≤ (path.reverse.dropWhile isControlOrSpace).reverse.length :=
      Nat.le_trans (congrArg List.length h).ge (List.length_filter_le _ _)
    have htrim := (dropEnd_sublist path).eq_of_length_le hlength
    refine ⟨fun c hc ↦ ?_, fun c hc ↦ ?_⟩
    · rw [← h] at hc
      simpa using (List.mem_filter.mp hc).2
    · have hhead := List.head?_dropWhile_not isControlOrSpace path.reverse
      rw [← List.reverse_reverse (path.reverse.dropWhile _), htrim, List.head?_reverse, hc] at hhead
      exact hhead
  · rintro ⟨hkept, hlast⟩
    have htrim : path.reverse.dropWhile isControlOrSpace = path.reverse := by
      rw [← List.head?_reverse] at hlast
      cases hreverse : path.reverse with
      | nil => rfl
      | cons c rest =>
        rw [hreverse] at hlast
        rw [List.dropWhile_cons_of_neg (by simp [hlast c rfl])]
    rw [cleanedEnd, htrim, List.reverse_reverse, List.filter_eq_self]
    exact fun c hc ↦ by simp [hkept c hc]

/-! ## Schemes and hosts -/

namespace Target

/-- What follows the scheme begins in the base. -/
theorem exists_afterScheme? {front : List Char} (h : (afterScheme? (front ++ ['/'])).isSome) :
    ∃ more, (∀ c ∈ more, c ∈ front) ∧
      ∀ rest, afterScheme? (front ++ '/' :: rest) = some (more ++ '/' :: rest) := by
  by_cases hcolon : ':' ∈ front
  · obtain ⟨scheme, more, rfl, hscheme⟩ := List.eq_append_cons_of_mem hcolon
    have hall : ∀ c ∈ scheme, decide (c ≠ ':') = true := by
      intro c hc
      exact decide_eq_true fun hsame ↦ hscheme (hsame ▸ hc)
    have hrun : ∀ rest, afterScheme? (scheme ++ ':' :: more ++ '/' :: rest) =
        if scheme.map Char.toLower = ['h', 't', 't', 'p'] ∨
          scheme.map Char.toLower = ['h', 't', 't', 'p', 's'] then some (more ++ '/' :: rest)
        else none := by
      intro rest
      rw [afterScheme?, List.append_assoc, List.cons_append, takeWhile_append_cons (by decide),
        dropWhile_append_cons (by decide), List.takeWhile_eq_self_iff.mpr hall,
        List.dropWhile_eq_nil_iff.mpr hall, List.nil_append]
    rw [hrun] at h
    split at h
    · next hknown =>
      refine ⟨more, fun c hc ↦ by simp [hc], fun rest ↦ ?_⟩
      rw [hrun, if_pos hknown]
    · contradiction
  · have hall : ∀ c ∈ front ++ ['/'], decide (c ≠ ':') = true := by
      intro c hc
      apply decide_eq_true
      rintro rfl
      simp [hcolon] at hc
    have hslash : '/' ∈ (front ++ ['/']).map Char.toLower :=
      List.mem_map.mpr ⟨'/', by simp, by decide⟩
    rw [afterScheme?, List.takeWhile_eq_self_iff.mpr hall, if_neg ?_] at h
    · contradiction
    · rintro (hhttp | hhttps)
      · rw [hhttp] at hslash
        exact absurd hslash (by decide)
      · rw [hhttps] at hslash
        exact absurd hslash (by decide)

/-- The target of a text that follows a scheme. -/
def ofAuthority? (cs : List Char) : Option Target :=
  let rest := cs.dropWhile isSlash
  if (rest.takeWhile fun c ↦ !endsHost c).isEmpty then none
  else some (ofRest (rest.dropWhile fun c ↦ !endsHost c))

theorem ofUrl?_eq_bind (url : String) :
    ofUrl? url = (afterScheme? (cleaned url)).bind ofAuthority? := rfl

/-- What follows the host begins at the end of the host. -/
theorem exists_ofAuthority? {more : List Char} (h : (ofAuthority? (more ++ ['/'])).isSome) :
    ∃ rest, (∀ c ∈ rest, c ∈ more) ∧ (∀ c ∈ rest.head?, endsHost c = true) ∧
      ∀ tail, ofAuthority? (more ++ '/' :: tail) = some (ofRest (rest ++ '/' :: tail)) := by
  generalize hhost : more.dropWhile isSlash = host
  have hne : host ≠ [] := by
    rintro rfl
    have hslashes : (more ++ ['/']).dropWhile isSlash = [] := by
      rw [List.dropWhile_append, hhost]
      rfl
    rw [ofAuthority?, hslashes] at h
    contradiction
  have hrun : ∀ tail, ofAuthority? (more ++ '/' :: tail) =
      if (host.takeWhile fun c ↦ !endsHost c).isEmpty then none
      else some (ofRest (host.dropWhile (fun c ↦ !endsHost c) ++ '/' :: tail)) := by
    intro tail
    have hdrop : (more ++ '/' :: tail).dropWhile isSlash = host ++ '/' :: tail := by
      rw [List.dropWhile_append, hhost, if_neg (by simpa using hne)]
    rw [ofAuthority?, hdrop, takeWhile_append_cons (by decide), dropWhile_append_cons (by decide)]
  refine ⟨host.dropWhile fun c ↦ !endsHost c, fun c hc ↦ ?_, fun c hc ↦ ?_, fun tail ↦ ?_⟩
  · rw [← hhost] at hc
    exact (List.dropWhile_sublist _).subset ((List.dropWhile_sublist _).subset hc)
  · have hhead := List.head?_dropWhile_not (fun c ↦ !endsHost c) host
    rw [hc] at hhead
    simpa using hhead
  · rw [hrun] at h ⊢
    split at h
    · contradiction
    · next hnamed => rw [if_neg hnamed]

theorem exists_ofUrl? {base : String} (h : (ofUrl? (base ++ "/")).isSome) :
    ∃ rest, (∀ c ∈ rest, c ∈ base.toList) ∧ (∀ c ∈ rest.head?, endsHost c = true) ∧
      ∀ path, ofUrl? (base ++ "/" ++ path) =
        some (ofRest (rest ++ '/' :: cleanedEnd path.toList)) := by
  have hclean : cleaned (base ++ "/") = cleanedFront base.toList ++ ['/'] := by
    have hempty : base ++ "/" ++ "" = base ++ "/" := String.append_empty
    rw [← hempty, cleaned_append_slash]
    rfl
  rw [ofUrl?_eq_bind, hclean] at h
  obtain ⟨more, hmore, hscheme⟩ := exists_afterScheme? (Option.isSome_of_isSome_bind h)
  rw [hscheme, Option.bind_some] at h
  obtain ⟨rest, hrest, hhead, hauthority⟩ := exists_ofAuthority? h
  refine ⟨rest, fun c hc ↦ mem_of_mem_cleanedFront (hmore c (hrest c hc)), hhead, fun path ↦ ?_⟩
  rw [ofUrl?_eq_bind, cleaned_append_slash, hscheme, Option.bind_some, hauthority]

end Target

/-! ## Segments -/

theorem splitSegments_ne_nil (cs : List Char) : splitSegments cs ≠ [] := by
  cases cs with
  | nil => exact List.cons_ne_nil _ _
  | cons c cs =>
    rw [splitSegments]
    split
    · exact List.cons_ne_nil _ _
    · split <;> exact List.cons_ne_nil _ _

theorem splitSegments_append_slash {c : Char} (h : isSlash c = true) (before after : List Char) :
    splitSegments (before ++ c :: after) = splitSegments before ++ splitSegments after := by
  induction before with
  | nil => simp [splitSegments, h]
  | cons d before ih =>
    rw [List.cons_append, splitSegments, splitSegments, ih]
    split
    · rfl
    · obtain ⟨segment, more, hsplit⟩ :=
        List.exists_cons_of_ne_nil (splitSegments_ne_nil before)
      rw [hsplit]
      rfl

theorem splitSegments_of_no_slash {cs : List Char} (h : ∀ c ∈ cs, isSlash c = false) :
    splitSegments cs = [cs] := by
  induction cs with
  | nil => rfl
  | cons c cs ih =>
    obtain ⟨hc, hcs⟩ := List.forall_mem_cons.mp h
    rw [splitSegments, hc, ih hcs]
    rfl

/-- A segment is a part of the text without slashes. -/
theorem of_mem_splitSegments {cs segment : List Char} (h : segment ∈ splitSegments cs) :
    segment.Sublist cs ∧ ∀ c ∈ segment, isSlash c = false := by
  induction cs generalizing segment with
  | nil =>
    rw [List.mem_singleton.mp h]
    exact ⟨List.Sublist.refl _, List.forall_mem_nil _⟩
  | cons c cs ih =>
    rw [splitSegments] at h
    split at h
    · obtain rfl | hmem := List.mem_cons.mp h
      · exact ⟨List.nil_sublist _, List.forall_mem_nil _⟩
      · exact ⟨(ih hmem).1.trans (List.sublist_cons_self _ _), (ih hmem).2⟩
    · next hc =>
      obtain ⟨first, more, hsplit⟩ := List.exists_cons_of_ne_nil (splitSegments_ne_nil cs)
      rw [hsplit] at h ih
      obtain rfl | hmem := List.mem_cons.mp h
      · obtain ⟨hsub, hslash⟩ := ih List.mem_cons_self
        exact ⟨hsub.cons_cons c, List.forall_mem_cons.mpr ⟨by simpa using hc, hslash⟩⟩
      · obtain ⟨hsub, hslash⟩ := ih (List.mem_cons_of_mem _ hmem)
        exact ⟨hsub.trans (List.sublist_cons_self _ _), hslash⟩

/-- What a segment does to the segments before it, which are kept in reverse. -/
def resolveDot (kept : List (List Char)) (segment : List Char) : List (List Char) :=
  if isDoubleDot segment then kept.drop 1
  else if isSingleDot segment then kept
  else segment :: kept

theorem foldl_resolveDot {segments : List (List Char)}
    (h : ∀ segment ∈ segments, isDoubleDot segment = false ∧ isSingleDot segment = false)
    (kept : List (List Char)) : segments.foldl resolveDot kept = segments.reverse ++ kept := by
  induction segments generalizing kept with
  | nil => rfl
  | cons segment segments ih =>
    obtain ⟨hsegment, hsegments⟩ := List.forall_mem_cons.mp h
    have hstep : resolveDot kept segment = segment :: kept := by simp [resolveDot, hsegment]
    rw [List.foldl_cons, hstep, ih hsegments, List.reverse_cons, List.append_assoc,
      List.singleton_append]

theorem resolveDots_append {rest : List (List Char)} (h : rest ≠ [])
    (kept before : List (List Char)) :
    resolveDots kept (before ++ rest) = resolveDots (before.foldl resolveDot kept) rest := by
  induction before generalizing kept with
  | nil => rfl
  | cons segment before ih =>
    obtain ⟨next, more, hcons⟩ := List.exists_cons_of_ne_nil (l := before ++ rest) (by simp [h])
    have hstep : resolveDots kept (segment :: next :: more) =
        resolveDots (resolveDot kept segment) (next :: more) := by
      rw [resolveDots, resolveDot]
      · split
        · rfl
        · split <;> rfl
      · exact List.cons_ne_nil _ _
    rw [List.cons_append, hcons, hstep, ← hcons, ih, List.foldl_cons]

/-- The last of the resolved segments is the last one that was given, or nothing at all. -/
theorem getLast?_resolveDots {segments : List (List Char)} (h : segments ≠ [])
    (kept : List (List Char)) : ∃ last ∈ segments,
      (resolveDots kept segments).getLast? =
        some (if isDoubleDot last || isSingleDot last then [] else last) := by
  obtain ⟨before, last, hconcat⟩ := (List.eq_nil_or_concat segments).resolve_left h
  rw [List.concat_eq_append] at hconcat
  refine ⟨last, by simp [hconcat], ?_⟩
  rw [hconcat, resolveDots_append (List.cons_ne_nil _ _), resolveDots]
  cases isDoubleDot last <;> cases isSingleDot last <;> simp

/-! ## Paths and queries -/

/-- The path of what follows a base URL. -/
def pathPart (tail : List Char) : List Char :=
  (tail.takeWhile (· ≠ '#')).takeWhile (· ≠ '?')

/-- The query of what follows a base URL. -/
def queryPart (tail : List Char) : Option (List Char) :=
  let query := (tail.takeWhile (· ≠ '#')).dropWhile (· ≠ '?')
  if query.isEmpty then none else some ((query.drop 1).flatMap encodeQueryChar)

/-- The target below segments that are kept in reverse. -/
def Target.below (kept : List (List Char)) (tail : List Char) : Target :=
  ⟨(resolveDots kept (splitSegments (pathPart tail))).map (·.flatMap encodePathChar),
    queryPart tail⟩

theorem plain_of_all {cs : List Char} (h : (cs.all fun c ↦ c != '?' && c != '#') = true) :
    ∀ c ∈ cs, c ≠ '?' ∧ c ≠ '#' := by
  simpa using h

theorem pathPart_sublist (tail : List Char) : (pathPart tail).Sublist tail :=
  (List.takeWhile_sublist _).trans (List.takeWhile_sublist _)

theorem pathPart_eq_self_iff {tail : List Char} :
    pathPart tail = tail ↔ ∀ c ∈ tail, c ≠ '?' ∧ c ≠ '#' := by
  constructor
  · intro h
    have hfragment : tail.takeWhile (· ≠ '#') = tail :=
      (List.takeWhile_sublist _).eq_of_length_le <|
        Nat.le_trans (congrArg List.length h).ge (List.takeWhile_sublist _).length_le
    have hquery : tail.takeWhile (· ≠ '?') = tail := by
      rwa [pathPart, hfragment] at h
    intro c hc
    exact ⟨of_decide_eq_true (List.takeWhile_eq_self_iff.mp hquery c hc),
      of_decide_eq_true (List.takeWhile_eq_self_iff.mp hfragment c hc)⟩
  · intro h
    rw [pathPart, List.takeWhile_eq_self_iff.mpr fun c hc ↦ decide_eq_true (h c hc).2]
    exact List.takeWhile_eq_self_iff.mpr fun c hc ↦ decide_eq_true (h c hc).1

section

variable {before tail : List Char} (h : ∀ c ∈ before, c ≠ '?' ∧ c ≠ '#')

include h

theorem takeWhile_append_of_plain :
    (before ++ tail).takeWhile (· ≠ '#') = before ++ tail.takeWhile (· ≠ '#') :=
  List.takeWhile_append_of_pos fun c hc ↦ decide_eq_true (h c hc).2

theorem pathPart_append : pathPart (before ++ tail) = before ++ pathPart tail := by
  rw [pathPart, takeWhile_append_of_plain h]
  exact List.takeWhile_append_of_pos fun c hc ↦ decide_eq_true (h c hc).1

theorem queryPart_append : queryPart (before ++ tail) = queryPart tail := by
  have hdrop : (before ++ tail.takeWhile (· ≠ '#')).dropWhile (· ≠ '?') =
      (tail.takeWhile (· ≠ '#')).dropWhile (· ≠ '?') :=
    List.dropWhile_append_of_pos fun c hc ↦ decide_eq_true (h c hc).1
  rw [queryPart, takeWhile_append_of_plain h, hdrop, queryPart]

end

theorem Target.below_append {before : List Char} (h : ∀ c ∈ before, c ≠ '?' ∧ c ≠ '#')
    (kept : List (List Char)) (tail : List Char) :
    below kept (before ++ '/' :: tail) =
      below ((splitSegments before).foldl resolveDot kept) tail := by
  have hslash : ∀ c ∈ before ++ ['/'], c ≠ '?' ∧ c ≠ '#' :=
    List.forall_mem_append.mpr ⟨h, plain_of_all rfl⟩
  have hsplit : before ++ '/' :: tail = before ++ ['/'] ++ tail := by simp
  rw [below, hsplit, queryPart_append hslash, pathPart_append hslash, List.append_assoc,
    List.singleton_append, splitSegments_append_slash rfl,
    resolveDots_append (splitSegments_ne_nil _), below]

/-- The target of what follows a host. -/
theorem Target.ofRest_cons {c : Char} (h : isSlash c = true) (tail : List Char) :
    ofRest (c :: tail) = below [] tail := by
  have hc : ∀ d ∈ [c], d ≠ '?' ∧ d ≠ '#' := by
    rw [List.forall_mem_singleton]
    constructor <;> rintro rfl <;> contradiction
  have hpath : pathPart (c :: tail) = c :: pathPart tail := pathPart_append hc
  have hquery : queryPart (c :: tail) = queryPart tail := queryPart_append hc
  calc
    ofRest (c :: tail) = ⟨(resolveDots [] (splitSegments
        (if (pathPart (c :: tail)).head?.any isSlash then (pathPart (c :: tail)).drop 1
          else pathPart (c :: tail)))).map (·.flatMap encodePathChar), queryPart (c :: tail)⟩ := rfl
    _ = below [] tail := by
      rw [hpath, hquery, List.head?_cons, Option.any_some, if_pos h, List.drop_succ_cons,
        List.drop_zero, below]

theorem Target.exists_ofRest {rest : List Char} (hplain : ∀ c ∈ rest, c ≠ '?' ∧ c ≠ '#')
    (hhead : ∀ c ∈ rest.head?, endsHost c = true) :
    ∃ kept, ∀ tail, ofRest (rest ++ '/' :: tail) = below kept tail := by
  cases rest with
  | nil => exact ⟨[], ofRest_cons rfl⟩
  | cons c more =>
    obtain ⟨hc, hmore⟩ := List.forall_mem_cons.mp hplain
    have hslash : isSlash c = true := by
      have hends := hhead c rfl
      simpa [endsHost, hc.1, hc.2] using hends
    exact ⟨_, fun tail ↦ (ofRest_cons hslash _).trans (below_append hmore _ tail)⟩

/-- **Below a base.**  What is put below a base URL is resolved on top of the path of the base. -/
theorem Target.exists_below {base : String} {root : Target} (h : ofUrl? (base ++ "/") = some root)
    (hplain : ∀ c ∈ base.toList, c ≠ '?' ∧ c ≠ '#') :
    ∃ kept, root.segments = kept.reverse.map (·.flatMap encodePathChar) ++ [[]] ∧
      ∀ path, ofUrl? (base ++ "/" ++ path) = some (below kept (cleanedEnd path.toList)) := by
  obtain ⟨rest, hrest, hhead, hurl⟩ := exists_ofUrl? (Option.isSome_of_eq_some h)
  obtain ⟨kept, hkept⟩ := exists_ofRest (fun c hc ↦ hplain c (hrest c hc)) hhead
  have hbelow : ∀ path, ofUrl? (base ++ "/" ++ path) = some (below kept (cleanedEnd path.toList)) :=
    fun path ↦ (hurl path).trans (congrArg some (hkept _))
  refine ⟨kept, ?_, hbelow⟩
  have hroot := hbelow ""
  rw [String.append_empty, h] at hroot
  rw [Option.some.inj hroot]
  have hdots : isDoubleDot [] = false ∧ isSingleDot [] = false := by decide
  simp [below, pathPart, cleanedEnd, splitSegments, resolveDots, hdots]

end MobileMoney.Http
