import Mathlib.Data.List.DropRight
import Mathlib.Data.List.Infix
import Meteogram.Proofs.Except
import Meteogram.View

/-!
# Addresses that are asked for

A path has one address below a base, whatever slashes stand where the two are joined. A view asks for
that address and shows the chart of what is fetched from there, as long as the text of the path
nowhere has `://` in it. A text that begins with a scheme is an address of its own and is asked for as
it is. So is a path with `://` further on, as in a query that names another address: here the view
does not ask for what the fetcher would.
-/
namespace Meteogram

namespace Address

/-- What ends the scheme of an address. -/
def schemeEnd : List Char := "://".toList

/-- Whether a character may be in a scheme after its first letter. -/
def isSchemeChar (c : Char) : Bool := c.isAlphanum || c == '+' || c == '-' || c == '.'

/-- Whether a text begins with a scheme and what ends it, so that it is an address of its own. -/
def beginsWithScheme : List Char → Bool
  | [] => false
  | c :: cs => c.isAlpha && schemeEnd.isPrefixOf (cs.dropWhile isSchemeChar)

theorem hasScheme_iff {cs : List Char} : hasScheme cs = true ↔ schemeEnd <:+: cs := by
  induction cs with
  | nil => exact ⟨nofun, fun h => absurd (List.eq_nil_of_infix_nil h) (by decide)⟩
  | cons c cs ih =>
    rw [hasScheme, Bool.or_eq_true, ih, List.infix_cons_iff, List.isPrefixOf_iff_prefix]
    rfl

theorem isAbsolute_iff {s : String} : isAbsolute s = true ↔ schemeEnd <:+: s.toList := hasScheme_iff

theorem isAbsolute_of_beginsWithScheme {s : String} (h : beginsWithScheme s.toList = true) :
    isAbsolute s = true := by
  rw [isAbsolute_iff]
  cases hcs : s.toList with
  | nil =>
    rw [hcs] at h
    cases h
  | cons c cs =>
    rw [hcs, beginsWithScheme, Bool.and_eq_true, List.isPrefixOf_iff_prefix] at h
    exact h.2.isInfix.trans ((List.dropWhile_suffix _).trans (List.suffix_cons c cs)).isInfix

/-! ### Slashes -/

/-- A number of slashes. -/
def slashes (n : ℕ) : List Char := List.replicate n '/'

theorem dropSlashes_append (n : ℕ) (cs : List Char) :
    dropSlashes (slashes n ++ cs) = dropSlashes cs := by
  refine List.dropWhile_append_of_pos fun c hc => ?_
  rw [List.eq_of_mem_replicate hc]
  rfl

theorem dropLastSlashes_append (cs : List Char) (n : ℕ) :
    dropLastSlashes (cs ++ slashes n) = dropLastSlashes cs := by
  rw [dropLastSlashes, List.reverse_append, slashes, List.reverse_replicate, ← slashes,
    dropSlashes_append, dropLastSlashes]

theorem dropSlashes_of_head? {cs : List Char} (h : cs.head? ≠ some '/') : dropSlashes cs = cs := by
  cases cs with
  | nil => rfl
  | cons c cs =>
    rw [List.head?_cons, ne_eq, Option.some.injEq] at h
    exact List.dropWhile_cons_of_neg (by simpa using h)

theorem head?_dropSlashes (cs : List Char) : (dropSlashes cs).head? ≠ some '/' := by
  intro h
  have hnot := List.head?_dropWhile_not (fun c : Char => decide (c = '/')) cs
  rw [dropSlashes] at h
  rw [h] at hnot
  simp at hnot

theorem dropLastSlashes_eq_nil_iff {cs : List Char} :
    dropLastSlashes cs = [] ↔ ∀ c ∈ cs, c = '/' := by
  refine List.rdropWhile_eq_nil_iff.trans ?_
  simp only [decide_eq_true_eq]

/-- What is left of a base does not end with a slash, so it consists of slashes only if nothing is
left. -/
theorem dropLastSlashes_eq_nil {cs : List Char} (h : ∀ c ∈ dropLastSlashes cs, c = '/') :
    dropLastSlashes cs = [] := by
  by_contra hne
  have hlast := List.rdropWhile_last_not (fun c : Char => decide (c = '/')) cs hne
  rw [decide_eq_true_eq] at hlast
  exact hlast (h _ (List.getLast_mem hne))

/-- Slashes at the end of the base and at the start of the path do not matter. -/
theorem join_slashes (base path : String) (m n : ℕ) :
    join (base ++ String.ofList (slashes m)) (String.ofList (slashes n) ++ path) =
      join base path := by
  simp only [join, String.toList_append, String.toList_ofList, dropSlashes_append,
    dropLastSlashes_append]

/-- A path is its own address where the base is nothing but slashes and the path begins with one. -/
def IsOwn (base path : String) : Prop :=
  (∀ c ∈ base.toList, c = '/') ∧ ∃ rest, path.toList = '/' :: rest ∧ rest.head? ≠ some '/'

theorem join_eq_path_iff {base path : String} : join base path = path ↔ IsOwn base path := by
  rw [← String.toList_inj, join, String.toList_ofList]
  constructor
  · intro h
    -- Both sides end with the path without its slashes, so that the rest of them is the same.
    have hpath : path.toList.takeWhile (· = '/') ++ dropSlashes path.toList = path.toList :=
      List.takeWhile_append_dropWhile
    have hjoined : dropLastSlashes base.toList ++ ['/'] ++ dropSlashes path.toList =
        path.toList.takeWhile (· = '/') ++ dropSlashes path.toList := by
      rw [hpath, List.append_assoc, List.singleton_append, h]
    have hslashes : dropLastSlashes base.toList ++ ['/'] = path.toList.takeWhile (· = '/') :=
      List.append_cancel_right hjoined
    have hnil : dropLastSlashes base.toList = [] := by
      refine dropLastSlashes_eq_nil fun c hc => ?_
      have hmem : c ∈ path.toList.takeWhile (· = '/') :=
        hslashes ▸ List.mem_append_left _ hc
      simpa using List.mem_takeWhile_imp hmem
    rw [hnil, List.nil_append] at h
    exact ⟨dropLastSlashes_eq_nil_iff.mp hnil, _, h.symm, head?_dropSlashes _⟩
  · rintro ⟨hbase, rest, hpath, hrest⟩
    rw [dropLastSlashes_eq_nil_iff.mpr hbase, hpath, List.nil_append]
    exact congrArg ('/' :: ·) ((dropSlashes_append 1 rest).trans (dropSlashes_of_head? hrest))

end Address

namespace Fetcher

variable {f : Fetcher} {base : String}

theorem resolve_eq (hbase : f.baseUrl = some base) (path : String) :
    f.resolve path = .ok (Address.join base path) := by
  rw [resolve, hbase]

/-- Fetching a path asks for its address below the base. -/
theorem fetchPath_eq (hbase : f.baseUrl = some base) (exchange : Exchange) (path : String) :
    f.fetchPath exchange path =
      ofReply (Address.join base path) (exchange (Address.join base path)) := by
  rw [fetchPath, resolve_eq hbase]
  rfl

end Fetcher

namespace View

variable {v : View} {base url address address' : String}

/-- The chart of a dataset that was fetched, or the error of fetching it. -/
def chartOfFetched (v : View) (spec : ChartSpec) (axis : Option Axis)
    (fetched : Except FetchError Dataset) : Except ViewError ChartConfig := do
  v.chart spec (← fetched.mapError .fetch) axis

/-- A view asks for an address where the chart of a text is, for all that servers may say, the chart
of what is said at this address. -/
def AsksFor (v : View) (url address : String) : Prop :=
  ∀ exchange spec axis, v.fetchChart exchange spec url axis =
    v.chartOfFetched spec axis (Fetcher.ofReply address (exchange address))

/-- A view asks for one address only: where no server answers, the error says which it is. -/
theorem AsksFor.unique (h : v.AsksFor url address) (h' : v.AsksFor url address') :
    address = address' := by
  let spec : ChartSpec := ⟨"", false, [], [], none⟩
  have hsame := (h (fun _ => .unreachable) spec none).symm.trans
    (h' (fun _ => .unreachable) spec none)
  simpa [chartOfFetched, Fetcher.ofReply, Except.mapError] using hsame

theorem asksFor_self (h : Address.isAbsolute url = true) : v.AsksFor url url := by
  intro exchange spec axis
  rw [fetchChart, Fetcher.fetchAny, if_pos h]
  rfl

theorem fetchChart_of_not_isAbsolute (h : Address.isAbsolute url = false) (exchange : Exchange)
    (spec : ChartSpec) (axis : Option Axis) :
    v.fetchChart exchange spec url axis =
      v.chartOfFetched spec axis (v.fetcher.fetchPath exchange url) := by
  rw [fetchChart, Fetcher.fetchAny, h]
  rfl

theorem asksFor_join_iff (hbase : v.settings.baseUrl = some base) :
    v.AsksFor url (Address.join base url) ↔
      ¬ Address.schemeEnd <:+: url.toList ∨ Address.IsOwn base url := by
  rw [← Address.isAbsolute_iff, Bool.not_eq_true, ← Address.join_eq_path_iff]
  cases habsolute : Address.isAbsolute url with
  | true =>
    simp only [Bool.true_eq_false, false_or]
    constructor
    · intro h
      exact h.unique (asksFor_self habsolute)
    · intro h
      rw [h]
      exact asksFor_self habsolute
  | false =>
    simp only [true_or, iff_true]
    intro exchange spec axis
    rw [fetchChart_of_not_isAbsolute habsolute, Fetcher.fetchPath_eq hbase]

/-- Below a base every path has an address, slashes at the end of the base and at the start of the
path aside. The fetcher asks for it. A view asks for it, and so shows the chart of what the fetcher
finds, unless there is `://` in the path; it then asks for the path as it stands, which is the
address only if the base is nothing but slashes. It never takes an address for a path. -/
theorem address_of_fetchChart (hbase : v.settings.baseUrl = some base) (url : String) :
    ∃ address, v.fetcher.resolve url = .ok address ∧
      (∀ exchange, v.fetcher.fetchPath exchange url =
        Fetcher.ofReply address (exchange address)) ∧
      (v.AsksFor url address ↔ ∀ exchange spec axis, v.fetchChart exchange spec url axis =
        v.chartOfFetched spec axis (v.fetcher.fetchPath exchange url)) ∧
      (v.AsksFor url address ↔
        ¬ Address.schemeEnd <:+: url.toList ∨ Address.IsOwn base url) ∧
      (v.AsksFor url address ∨ v.AsksFor url url) ∧
      (Address.beginsWithScheme url.toList = true → v.AsksFor url url) ∧
      ∀ m n, Fetcher.resolve ⟨some (base ++ String.ofList (Address.slashes m))⟩
        (String.ofList (Address.slashes n) ++ url) = .ok address := by
  have hfetch := Fetcher.fetchPath_eq (f := v.fetcher) hbase
  refine ⟨Address.join base url, Fetcher.resolve_eq hbase url, fun exchange => hfetch exchange url,
    ?_, asksFor_join_iff hbase, ?_, fun h => asksFor_self (Address.isAbsolute_of_beginsWithScheme h),
    fun m n => ?_⟩
  · simp only [AsksFor, hfetch]
  · cases h : Address.isAbsolute url with
    | true => exact .inr (asksFor_self h)
    | false => exact .inl ((asksFor_join_iff hbase).mpr (.inl (by simp [← Address.isAbsolute_iff, h])))
  · rw [Fetcher.resolve_eq rfl, Address.join_slashes]

/-- A path with slashes at its start and a query, below a base with slashes at its end. -/
theorem address_of_fetchChart_of_day :
    let v : View := ⟨{ Settings.standard with baseUrl := some "http://station.local//" }⟩
    let url := "//aggr/day?month=3"
    let address := "http://station.local/aggr/day?month=3"
    v.settings.baseUrl = some "http://station.local//" ∧ v.fetcher.resolve url = .ok address ∧
      v.AsksFor url address := by
  intro v url address
  have hbase : v.settings.baseUrl = some "http://station.local//" := rfl
  obtain ⟨address', hresolve, -, -, hasks, -⟩ := address_of_fetchChart hbase url
  obtain rfl : address = address' := Except.ok.inj (Eq.trans (by decide +kernel) hresolve)
  refine ⟨hbase, hresolve, hasks.mpr (.inl ?_)⟩
  rw [← Address.isAbsolute_iff]
  decide

/-- Another address in the query of a path. The server below the base answers with a dataset, which
the fetcher finds; the view asks for the path as if it were an address, and no server answers. -/
theorem not_asksFor_of_query :
    let v : View := ⟨{ Settings.standard with baseUrl := some "http://station.local" }⟩
    let url := "aggr?source=http://other.local/day"
    let address := "http://station.local/aggr?source=http://other.local/day"
    let body := "[null, null, \"day\", [\x7b\"time\": 1704067200, \"rain\": 1.5\x7d]]"
    let exchange : Exchange := fun asked => if asked = address then .answer 200 body else .unreachable
    let spec : ChartSpec := ⟨"Rain", false, [⟨.bar, "Rain", "rain", "y", "blue", none, false⟩],
      [⟨"y", .left, "Rain", "mm"⟩], none⟩
    Address.beginsWithScheme url.toList = false ∧ v.fetcher.resolve url = .ok address ∧
      ¬ v.AsksFor url address ∧
      (∃ config, v.chartOfFetched spec none (v.fetcher.fetchPath exchange url) = .ok config) ∧
      v.fetchChart exchange spec url none = .error (.fetch (.networkRequest url)) := by
  intro v url address body exchange spec
  have hself : v.AsksFor url url := asksFor_self (by decide)
  have hfetch : v.fetcher.fetchPath exchange url =
      .ok ⟨none, none, some .day, [(Record.new (.number 1704067200)).set "rain" (some 1.5)]⟩ := by
    decide +kernel
  refine ⟨by decide, by decide +kernel, fun h => ?_, ?_, hself exchange spec none⟩
  · exact absurd (h.unique hself) (by decide)
  · rw [hfetch]
    exact ⟨_, rfl⟩

end View

end Meteogram
