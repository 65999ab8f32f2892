import Mathlib.Algebra.Order.Floor.Div
import Tagging.Http.Page
import Tagging.Text.Basic

/-!
# Pages tile their list

The pages of a list, from the first to the last, hold the list: each item stands on one page, and
the order is that of the list. A client who goes from page to page comes by all of them and then
stops. Numbers of pages are words of 64 bits where they are computed; on the way to a page that is
answered no word overflows.
-/

namespace Tagging.Http

/-! ### The last page -/

/-- The number of the last page. A list without items has one page, which is empty. -/
def lastPage (count size : Nat) : Nat :=
  max 1 (count ⌈/⌉ size)

/-- Pages are never empty by their size. -/
theorem clampPageSize_pos (size : Nat) : 0 < clampPageSize size := by
  unfold clampPageSize maxPageSize
  omega

private theorem clampPageSize_idem (size : Nat) :
    clampPageSize (clampPageSize size) = clampPageSize size := by
  unfold clampPageSize maxPageSize
  omega

section

variable {count size page : Nat}

private theorem lastPage_lt_iff (pos : 0 < size) :
    lastPage count size < page ↔ 1 < page ∧ count ≤ (page - 1) * size := by
  have ended : count ⌈/⌉ size ≤ page - 1 ↔ count ≤ (page - 1) * size := by
    rw [ceilDiv_le_iff_le_mul pos, Nat.mul_comm]
  rw [lastPage, max_lt_iff]
  refine and_congr_right fun later ↦ ?_
  rw [← ended]
  omega

private theorem lt_lastPage_iff (pos : 0 < size) (named : 0 < page) :
    page < lastPage count size ↔ page * size < count := by
  have ended : count ⌈/⌉ size ≤ page ↔ count ≤ page * size := by
    rw [ceilDiv_le_iff_le_mul pos, Nat.mul_comm]
  rw [← not_le, ← not_le, not_iff_not, lastPage, max_le_iff, ended, and_iff_right]
  omega

private theorem start_add (named : 0 < page) : (page - 1) * size + size = page * size := by
  rw [← Nat.succ_mul, Nat.succ_eq_add_one, Nat.sub_add_cancel named]

private theorem start_le (named : 0 < page) (there : ¬ (1 < page ∧ count ≤ (page - 1) * size)) :
    (page - 1) * size ≤ count := by
  by_cases later : 1 < page
  · exact Nat.le_of_lt (Nat.lt_of_not_le fun ended ↦ there ⟨later, ended⟩)
  · have only : page = 1 := by omega
    simp [only]

end

/-! ### A page -/

namespace Page

variable {α : Type} {items : List α} {request : PageRequest} {defaultSize : Nat}

/-- The page with a number, for pages of a size. -/
def cut (items : List α) (size page : Nat) : Page α where
  count := items.length
  next := if page < lastPage items.length size then some (page + 1) else none
  previous := if 1 < page then some (page - 1) else none
  results := items.extract ((page - 1) * size) (min (page * size) items.length)

private theorem results_cut {size page : Nat} (first : 0 < page) :
    (cut items size page).results = (items.drop ((page - 1) * size)).take size := by
  have stop : (page - 1) * size + size = page * size := start_add first
  rw [cut, List.extract_eq_take_drop, List.take_eq_take_iff, List.length_drop]
  omega

private theorem results_cut_append {size page : Nat} (first : 0 < page) :
    (cut items size page).results ++ items.drop (page * size) =
      items.drop ((page - 1) * size) := by
  rw [results_cut first, ← start_add first, ← List.drop_drop, List.take_append_drop]

/-- The pages are those from the first to the last one. None has the number zero, and after the last
one none is found. -/
theorem of_eq {page size : Nat} (named : request.page.getD 1 = page)
    (sized : clampPageSize (request.size.getD defaultSize) = size) :
    Page.of items request defaultSize =
      if page = 0 then .error (.validation .pageZero)
      else if lastPage items.length size < page then .error .notFound
      else .ok (cut items size page) := by
  have pos : 0 < size := sized ▸ clampPageSize_pos _
  simp only [Page.of, named, sized]
  by_cases zero : page = 0
  · rw [if_pos zero, if_pos zero]
  rw [if_neg zero, if_neg zero]
  have first : 0 < page := Nat.pos_of_ne_zero zero
  by_cases beyond : lastPage items.length size < page
  · rw [if_pos beyond, if_pos ((lastPage_lt_iff pos).mp beyond)]
  have there := mt (lastPage_lt_iff pos).mpr beyond
  rw [if_neg beyond, if_neg there]
  have within := start_le first there
  have stop : (page - 1) * size + size = page * size := start_add first
  have more : (page - 1) * size + ((items.drop ((page - 1) * size)).take size).length <
      items.length ↔ page < lastPage items.length size := by
    rw [lt_lastPage_iff pos first, List.length_take, List.length_drop]
    omega
  simp only [more]
  rw [← results_cut first]
  rfl

private theorem of_eq_cut {page size : Nat} (named : request.page.getD 1 = page)
    (sized : clampPageSize (request.size.getD defaultSize) = size) (first : 0 < page)
    (there : page ≤ lastPage items.length size) :
    Page.of items request defaultSize = .ok (cut items size page) := by
  rw [of_eq named sized, if_neg (Nat.ne_of_gt first), if_neg (Nat.not_lt.mpr there)]

end Page

/-! ### Words -/

namespace Word

/-- The sum of two words, if it is a word. -/
def add? (a b : UInt64) : Option UInt64 :=
  if a.toNat + b.toNat < Text.wordBound then some (a + b) else none

/-- The difference of two words, if it is a word. -/
def sub? (a b : UInt64) : Option UInt64 :=
  if b.toNat ≤ a.toNat then some (a - b) else none

/-- The product of two words, or the greatest word if the product is none. -/
def cappedMul (a b : UInt64) : UInt64 :=
  if a.toNat * b.toNat < Text.wordBound then a * b else .ofNat (Text.wordBound - 1)

/-- A size brought into the range of page sizes. -/
def clampPageSize (size : UInt64) : UInt64 :=
  if size < 1 then 1 else if 1000 < size then 1000 else size

/-- A sum that is a word is exact. -/
theorem add?_exact {a b : UInt64} (fits : a.toNat + b.toNat < Text.wordBound) :
    ∃ sum, add? a b = some sum ∧ sum.toNat = a.toNat + b.toNat := by
  refine ⟨a + b, if_pos fits, ?_⟩
  rw [UInt64.toNat_add]
  exact Nat.mod_eq_of_lt fits

/-- A difference that is a word is exact. -/
theorem sub?_exact {a b : UInt64} (fits : b.toNat ≤ a.toNat) :
    ∃ difference, sub? a b = some difference ∧ difference.toNat = a.toNat - b.toNat :=
  ⟨a - b, if_pos fits, UInt64.toNat_sub_of_le a b (UInt64.le_iff_toNat_le.mpr fits)⟩

/-- A product is exact, or capped. -/
theorem toNat_cappedMul (a b : UInt64) :
    (cappedMul a b).toNat = min (a.toNat * b.toNat) (Text.wordBound - 1) := by
  unfold cappedMul
  split
  · next fits =>
    have exact : (a * b).toNat = a.toNat * b.toNat := by
      rw [UInt64.toNat_mul]
      exact Nat.mod_eq_of_lt fits
    omega
  · next exceeds =>
    have greatest : (UInt64.ofNat (Text.wordBound - 1)).toNat = Text.wordBound - 1 := rfl
    omega

private theorem le_cappedMul_iff {a b : UInt64} {n : Nat} (small : n < Text.wordBound) :
    n ≤ (cappedMul a b).toNat ↔ n ≤ a.toNat * b.toNat := by
  rw [toNat_cappedMul]
  omega

private theorem cappedMul_exact {a b : UInt64} (fits : a.toNat * b.toNat < Text.wordBound) :
    (cappedMul a b).toNat = a.toNat * b.toNat := by
  rw [toNat_cappedMul]
  omega

private theorem toNat_ofNat {n : Nat} (small : n < Text.wordBound) : (UInt64.ofNat n).toNat = n :=
  UInt64.toNat_ofNat_of_lt small

private theorem toNat_clampPageSize (size : UInt64) :
    (clampPageSize size).toNat = Http.clampPageSize size.toNat := by
  have one : (1 : UInt64).toNat = 1 := rfl
  have most : (1000 : UInt64).toNat = 1000 := rfl
  simp only [clampPageSize, Http.clampPageSize, maxPageSize, UInt64.lt_iff_toNat_lt, one, most]
  split
  · omega
  · split <;> omega

end Word

namespace Page

variable {α : Type}

/-- The page with a number, for pages of a size, computed with words. It fails where a sum or a
difference is no word; whether there is a next page is only asked once its number has been computed.
-/
def numbered? (items : List α) (page size : UInt64) : Option (Except Error (Page α)) :=
  let count := UInt64.ofNat items.length
  if page = 0 then some (.error (.validation .pageZero))
  else do
    let before ← Word.sub? page 1
    let start := Word.cappedMul before size
    if 1 < page ∧ count ≤ start then some (.error .notFound)
    else do
      let results := (items.drop start.toNat).take size.toNat
      let stop ← Word.add? start (.ofNat results.length)
      let following ← Word.add? page 1
      some (.ok {
        count := count.toNat
        next := if stop < count then some following.toNat else none
        previous := if 1 < page then some before.toNat else none
        results })

/-- The page of a list that is asked for, computed with words. -/
def ofWords? (items : List α) (page size : Option UInt64) (defaultSize : UInt64) :
    Option (Except Error (Page α)) :=
  numbered? items (page.getD 1) (Word.clampPageSize (size.getD defaultSize))

/-- With words the same page is computed, and nothing overflows. -/
theorem numbered?_eq {items : List α} (few : items.length < 2 ^ 63) {page size : UInt64}
    (sized : clampPageSize size.toNat = size.toNat) :
    numbered? items page size =
      some (Page.of items ⟨some page.toNat, some size.toNat⟩ size.toNat) := by
  have bound : Text.wordBound = 2 ^ 64 := rfl
  have one : (1 : UInt64).toNat = 1 := rfl
  have pos : 0 < size.toNat := sized ▸ clampPageSize_pos _
  have counted : (UInt64.ofNat items.length).toNat = items.length := Word.toNat_ofNat (by omega)
  simp only [numbered?, Page.of, Option.getD_some, sized]
  by_cases zero : page.toNat = 0
  · have word : page = 0 := UInt64.toNat_inj.mp zero
    rw [if_pos word, if_pos zero]
  have word : page ≠ 0 := fun same ↦ zero (congrArg UInt64.toNat same)
  rw [if_neg word, if_neg zero]
  obtain ⟨before, subtracted, exact⟩ : ∃ before, Word.sub? page 1 = some before ∧
      before.toNat = page.toNat - 1 := Word.sub?_exact (by omega)
  simp only [subtracted, Option.bind_eq_bind, Option.bind_some, UInt64.le_iff_toNat_le,
    UInt64.lt_iff_toNat_lt, counted, one, Word.le_cappedMul_iff (n := items.length) (by omega),
    exact]
  split
  · rfl
  · next there =>
    -- A page that is there begins within the list, so that from here on no product is capped.
    have within := start_le (Nat.pos_of_ne_zero zero) there
    have numbers : page.toNat - 1 ≤ (page.toNat - 1) * size.toNat := Nat.le_mul_of_pos_right _ pos
    have begins : (Word.cappedMul before size).toNat = (page.toNat - 1) * size.toNat := by
      rw [← exact] at within ⊢
      exact Word.cappedMul_exact (by omega)
    rw [begins]
    generalize part : (items.drop ((page.toNat - 1) * size.toNat)).take size.toNat = results
    have length : results.length ≤ items.length - (page.toNat - 1) * size.toNat := by
      rw [← part, List.length_take, List.length_drop]
      omega
    have lengthExact : (UInt64.ofNat results.length).toNat = results.length :=
      Word.toNat_ofNat (by omega)
    obtain ⟨stop, stops, stopExact⟩ := Word.add?_exact
      (a := Word.cappedMul before size) (b := .ofNat results.length) (by omega)
    obtain ⟨following, follows, followingExact⟩ :=
      Word.add?_exact (a := page) (b := 1) (by omega)
    simp only [stops, follows, Option.bind_some, stopExact, begins, lengthExact, followingExact,
      one]

/-- With words the same page is computed, and nothing overflows. -/
theorem ofWords?_eq (items : List α) (few : items.length < 2 ^ 63) (page size : Option UInt64)
    (defaultSize : UInt64) :
    ofWords? items page size defaultSize =
      some (Page.of items ⟨page.map (·.toNat), size.map (·.toNat)⟩ defaultSize.toNat) := by
  have named : (page.map (·.toNat)).getD 1 = (page.getD 1).toNat := by
    cases page <;> rfl
  have sized : clampPageSize ((size.map (·.toNat)).getD defaultSize.toNat) =
      (Word.clampPageSize (size.getD defaultSize)).toNat := by
    rw [Word.toNat_clampPageSize]
    cases size <;> rfl
  have again : clampPageSize (Word.clampPageSize (size.getD defaultSize)).toNat =
      (Word.clampPageSize (size.getD defaultSize)).toNat := by
    rw [← sized]
    exact clampPageSize_idem _
  rw [ofWords?, numbered?_eq few again]
  have exact : Page.of items ⟨some (page.getD 1).toNat,
      some (Word.clampPageSize (size.getD defaultSize)).toNat⟩
      (Word.clampPageSize (size.getD defaultSize)).toNat = _ := of_eq rfl again
  rw [exact, of_eq named sized]
  rfl

end Page

/-! ### From page to page -/

section

variable {α : Type}

/-- Whoever asks for a page, and then for the next one as long as one is named, gets these pages. -/
inductive Walk (items : List α) (size : Option Nat) (defaultSize : Nat) :
    Nat → List (Page α) → Prop where
  | stop {page : Nat} {answer : Page α}
      (found : Page.of items ⟨some page, size⟩ defaultSize = .ok answer)
      (ends : answer.next = none) : Walk items size defaultSize page [answer]
  | go {page next : Nat} {answer : Page α} {pages : List (Page α)}
      (found : Page.of items ⟨some page, size⟩ defaultSize = .ok answer)
      (goes : answer.next = some next) (rest : Walk items size defaultSize next pages) :
      Walk items size defaultSize page (answer :: pages)

variable {items : List α} {size : Option Nat} {defaultSize : Nat}

/-- There is one way to go. -/
theorem Walk.unique {page : Nat} {pages others : List (Page α)}
    (one : Walk items size defaultSize page pages)
    (two : Walk items size defaultSize page others) : pages = others := by
  induction one generalizing others with
  | stop found ends =>
    cases two with
    | stop found' _ => rw [Except.ok.inj (found.symm.trans found')]
    | go found' goes _ =>
      rw [← Except.ok.inj (found.symm.trans found'), ends] at goes
      cases goes
  | go found goes _ ih =>
    cases two with
    | stop found' ends =>
      rw [← Except.ok.inj (found.symm.trans found'), goes] at ends
      cases ends
    | go found' goes' rest =>
      obtain rfl := Except.ok.inj (found.symm.trans found')
      obtain rfl := Option.some.inj (goes.symm.trans goes')
      rw [ih rest]

/-- From each page one comes by all that follow, which hold the items from its first one on. -/
theorem exists_walk {width : Nat} (sized : clampPageSize (size.getD defaultSize) = width)
    {page : Nat} (first : 0 < page) (there : page ≤ lastPage items.length width) :
    ∃ pages, Walk items size defaultSize page pages ∧
      pages.length = lastPage items.length width + 1 - page ∧
      pages.flatMap (·.results) = items.drop ((page - 1) * width) := by
  have pos : 0 < width := sized ▸ clampPageSize_pos _
  -- The induction is on the number of pages that are left.
  induction left : lastPage items.length width - page generalizing page with
  | zero =>
    have ends : ¬ page < lastPage items.length width := by omega
    have found : Page.of items ⟨some page, size⟩ defaultSize = .ok (.cut items width page) :=
      Page.of_eq_cut rfl sized first there
    refine ⟨[.cut items width page], .stop found (if_neg ends), ?_, ?_⟩
    · simp only [List.length_singleton]
      omega
    · have nothing : items.drop (page * width) = [] :=
        List.drop_eq_nil_of_le (Nat.le_of_not_lt (mt (lt_lastPage_iff pos first).mpr ends))
      rw [← Page.results_cut_append first, nothing, List.append_nil]
      exact List.append_nil _
  | succ left ih =>
    have goes : page < lastPage items.length width := by omega
    have found : Page.of items ⟨some page, size⟩ defaultSize = .ok (.cut items width page) :=
      Page.of_eq_cut rfl sized first there
    have later : 0 < page + 1 := Nat.succ_pos page
    obtain ⟨pages, walk, length, results⟩ := ih later goes (by omega)
    rw [Nat.add_sub_cancel] at results
    refine ⟨.cut items width page :: pages, .go found (if_pos goes) walk, ?_, ?_⟩
    · rw [List.length_cons, length]
      omega
    · rw [List.flatMap_cons, results, Page.results_cut_append first]

end

/-! ### The whole list -/

/-- The pages of a list tile it. The page zero is refused, and those after the last one are not
found. Every other page tells the number of items and the pages next to it, and holds the items from
its start on up to the start of the next page; with words the same is computed, and nothing
overflows. Whoever goes from the first page to the next one, and so on, comes by each page once and
has then seen each item once and in order. -/
theorem Page.of_tiles {α : Type} (items : List α) (few : items.length < 2 ^ 63)
    (page size : Option UInt64) (defaultSize : UInt64) :
    let number := (page.getD 1).toNat
    let width := clampPageSize (size.getD defaultSize).toNat
    let last := max 1 (items.length ⌈/⌉ width)
    let request : PageRequest := ⟨page.map (·.toNat), size.map (·.toNat)⟩
    let answer := Page.of items request defaultSize.toNat
    (answer = .error (.validation .pageZero) ↔ number = 0) ∧
      (answer = .error .notFound ↔ last < number) ∧
      (0 < number → number ≤ last → answer = .ok {
        count := items.length
        next := if number < last then some (number + 1) else none
        previous := if 1 < number then some (number - 1) else none
        results := items.extract ((number - 1) * width) (min (number * width) items.length) }) ∧
      Page.ofWords? items page size defaultSize = some answer ∧
      ∃ pages, Walk items request.size defaultSize.toNat 1 pages ∧ pages.length = last ∧
        pages.flatMap (·.results) = items ∧
        ∀ others, Walk items request.size defaultSize.toNat 1 others → others = pages := by
  intro number width last request answer
  have named : request.page.getD 1 = number := by
    cases page <;> rfl
  have sized : clampPageSize (request.size.getD defaultSize.toNat) = width := by
    cases size <;> rfl
  have answered : answer = if number = 0 then .error (.validation .pageZero)
      else if last < number then .error .notFound else .ok (cut items width number) :=
    of_eq named sized
  have first : 1 ≤ last := le_max_left ..
  obtain ⟨pages, walk, length, results⟩ := exists_walk sized Nat.one_pos first
  refine ⟨?_, ?_, of_eq_cut named sized, ofWords?_eq items few page size defaultSize,
    pages, walk, length, ?_, fun others other ↦ other.unique walk⟩
  · rw [answered]
    by_cases zero : number = 0
    · simp [zero]
    · by_cases beyond : last < number <;> simp [zero, beyond]
  · rw [answered]
    by_cases zero : number = 0
    · simp [zero]
    · by_cases beyond : last < number <;> simp [zero, beyond]
  · rw [results, Nat.sub_self, Nat.zero_mul, List.drop_zero]

/-- Four items make two pages of two items, and no third one, far as its number may lie. -/
theorem Page.of_tiles_even :
    let items := [10, 20, 30, 40]
    items.length < 2 ^ 63 ∧
      Page.of items ⟨some 18446744073709551615, some 2⟩ 40 = .error .notFound ∧
      Page.ofWords? items (some 18446744073709551615) (some 2) 40 = some (.error .notFound) ∧
      ∃ pages, Walk items (some 2) 40 1 pages ∧ pages.length = 2 ∧
        pages.flatMap (·.results) = items := by
  intro items
  have few : items.length < 2 ^ 63 := by decide
  obtain ⟨_, missing, _, words, pages, walk, length, results, _⟩ :=
    Page.of_tiles items few (some 18446744073709551615) (some 2) 40
  have beyond := missing.mpr (by decide)
  exact ⟨few, beyond, words.trans (congrArg some beyond), pages, walk, length.trans (by decide),
    results⟩

end Tagging.Http
