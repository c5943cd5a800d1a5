-- SUMMARY: Option texts compose, hold well-formed entries only, and spell all maps of such entries.
import Mathlib.Data.List.TakeWhile
import RelMap.Proofs.Options.Maps
import RelMap.Proofs.Text.Blanks

/-!
# Option texts

`Spells` says how a token can be written for an entry, and `Lists` how the tokens of a text can be
written for several. Main statements: a token is read as the one entry that it spells, if it spells
one that can be read; the entries of two texts in a row are those of the first overridden by those
of the second; and a text that is written for a map is read as that map.
-/
namespace RelMap.Options

open Text

/-! ## Tokens -/

theorem splitAll_eq_splitOn (mark : Char) (cs : List Char) :
    splitAll mark cs = cs.splitOn mark := by
  induction cs with
  | nil => rfl
  | cons c cs ih =>
    rw [splitAll, ih, List.splitOn_cons_eq_if_modifyHead]
    by_cases hc : c = mark
    · rw [if_pos hc, if_pos (beq_iff_eq.mpr hc)]
    · rw [if_neg hc, if_neg fun heq => hc (beq_iff_eq.mp heq)]
      cases hrest : cs.splitOn mark with
      | nil => exact absurd hrest (List.splitOn_ne_nil mark cs)
      | cons part parts => rfl

theorem not_mem_of_mem_splitAll {mark : Char} {token cs : List Char}
    (h : token ∈ splitAll mark cs) : mark ∉ token := by
  induction cs generalizing token with
  | nil => simp_all [splitAll]
  | cons c cs ih =>
    rw [splitAll] at h
    split at h
    · rcases List.mem_cons.mp h with rfl | h
      · exact List.not_mem_nil
      · exact ih h
    · next hne =>
      split at h
      · next hrest =>
        rw [splitAll_eq_splitOn] at hrest
        exact absurd hrest (List.splitOn_ne_nil mark cs)
      · next part parts hrest =>
        rcases List.mem_cons.mp h with rfl | h
        · have hpart : mark ∉ part := ih (hrest ▸ List.mem_cons_self)
          exact fun hmem => (List.mem_cons.mp hmem).elim (fun heq => hne heq.symm) hpart
        · exact ih (hrest ▸ List.mem_cons_of_mem _ h)

/-- Tokens with a mark between each two of them are split as they were joined. -/
theorem splitAll_eq_iff {mark : Char} {cs : List Char} {tokens : List (List Char)} :
    splitAll mark cs = tokens ↔
      tokens ≠ [] ∧ [mark].intercalate tokens = cs ∧ ∀ token ∈ tokens, mark ∉ token := by
  constructor
  · rintro rfl
    refine ⟨?_, ?_, fun token => not_mem_of_mem_splitAll⟩
    · rw [splitAll_eq_splitOn]
      exact List.splitOn_ne_nil mark cs
    · rw [splitAll_eq_splitOn]
      exact List.intercalate_splitOn mark
  · rintro ⟨hne, rfl, hnone⟩
    rw [splitAll_eq_splitOn]
    exact List.splitOn_intercalate mark hnone hne

/-! ## Entries of tokens -/

/-- A token is written for an entry, with blanks around the key and the value: as a pair or, if the
value is a dash, as the key alone. -/
inductive Spells (e : String × String) : List Char → Prop where
  | pair {k v : List Char} (key : Encloses k e.1.toList) (value : Encloses v e.2.toList) :
    Spells e (k ++ '=' :: v)
  | bare {k : List Char} (key : Encloses k e.1.toList) (dash : e.2 = "-") : Spells e k

/-- A key that can be read from a token: it is not empty, has no blanks around it, and holds no
equals sign. -/
structure ReadableKey (key : String) : Prop where
  nonempty : key ≠ ""
  unpadded : Unpadded key.toList
  equals : '=' ∉ key.toList

/-- What can be read from a token. A value has no blanks around it either. -/
structure Readable (e : String × String) : Prop where
  key : ReadableKey e.1
  value : Unpadded e.2.toList

variable {e : String × String} {token k v : List Char}

theorem not_mem_of_encloses {c : Char} {cs core : List Char} (hc : isBlank c = false)
    (h : Encloses cs core) (hcore : c ∉ core) : c ∉ cs := by
  obtain ⟨front, back, hfront, hback, rfl⟩ := h
  have hblanks {blanks : List Char} (hb : Blanks blanks) : c ∉ blanks := fun hmem => by
    rw [hb c hmem] at hc
    cases hc
  simp [hblanks hfront, hblanks hback, hcore]

theorem mem_of_encloses {c : Char} {cs core : List Char} (h : Encloses cs core) (hc : c ∈ core) :
    c ∈ cs := by
  obtain ⟨front, back, -, -, rfl⟩ := h
  simp [hc]

theorem entry?_bare (h : '=' ∉ token) : entry? token =
    if trim token = [] then none else some (String.ofList (trim token), "-") := by
  have hpart : ∀ c ∈ trim token, (c != '=') = true := fun c hc =>
    bne_iff_ne.mpr fun heq => h (mem_of_encloses (encloses_trim token) (heq ▸ hc))
  have hkey : trim (trim token) = trim token := (unpadded_trim token).trim_eq
  unfold entry?
  simp only [List.takeWhile_eq_self_iff.mpr hpart, List.dropWhile_eq_nil_iff.mpr hpart, hkey,
    List.isEmpty_iff]

theorem entry?_pair (h : '=' ∉ k) : entry? (k ++ '=' :: v) =
    if trim k = [] then none else some (String.ofList (trim k), String.ofList (trim v)) := by
  have hpart : ∀ c ∈ trimStart k, (c != '=') = true := fun c hc =>
    bne_iff_ne.mpr fun heq => h (mem_of_encloses (encloses_trimStart k) (heq ▸ hc))
  have hkey : trim (trimStart k) = trim k := (encloses_trimStart k).trim_eq.symm
  have hvalue : trim (trimEnd v) = trim v := (encloses_trimEnd v).trim_eq.symm
  have htrim : trim (k ++ '=' :: v) = trimStart k ++ '=' :: trimEnd v :=
    trim_append_cons (by decide) k v
  unfold entry?
  simp only [htrim, List.takeWhile_append_of_pos hpart, List.dropWhile_append_of_pos hpart]
  simp [hkey, hvalue]

/-- The value of a key that stands alone. -/
theorem unpadded_dash : Unpadded "-".toList := by decide

theorem encloses_ofList_trim (cs : List Char) : Encloses cs (String.ofList (trim cs)).toList := by
  rw [String.toList_ofList]
  exact encloses_trim cs

theorem unpadded_ofList_trim (cs : List Char) : Unpadded (String.ofList (trim cs)).toList := by
  rw [String.toList_ofList]
  exact unpadded_trim cs

/-- What stands before the first equals sign is trimmed to a key, unless it is blank. -/
theorem readableKey_trim (h : '=' ∉ k) (hne : trim k ≠ []) :
    ReadableKey (String.ofList (trim k)) := by
  refine ⟨by simpa using hne, unpadded_ofList_trim k, ?_⟩
  rw [String.toList_ofList]
  exact fun hmem => h (mem_of_encloses (encloses_trim k) hmem)

/-- A key with blanks around it has no equals sign, and is what trimming leaves. -/
theorem ReadableKey.of_encloses {key : String} (h : ReadableKey key) (hk : Encloses k key.toList) :
    '=' ∉ k ∧ trim k = key.toList ∧ trim k ≠ [] := by
  have htrim : trim k = key.toList := trim_eq_iff.mpr ⟨hk, h.unpadded⟩
  refine ⟨not_mem_of_encloses (by decide) hk h.equals, htrim, ?_⟩
  rw [htrim]
  simpa using h.nonempty

/-- A token is read as the entry that it spells, if that can be read. -/
theorem entry?_eq_some_iff : entry? token = some e ↔ Readable e ∧ Spells e token := by
  constructor
  · intro h
    by_cases hequals : '=' ∈ token
    · obtain ⟨k, v, rfl, hfirst⟩ := List.eq_append_cons_of_mem hequals
      rw [entry?_pair hfirst] at h
      split at h
      · cases h
      · next hne =>
        cases h
        exact ⟨⟨readableKey_trim hfirst hne, unpadded_ofList_trim v⟩,
          .pair (encloses_ofList_trim k) (encloses_ofList_trim v)⟩
    · rw [entry?_bare hequals] at h
      split at h
      · cases h
      · next hne =>
        cases h
        exact ⟨⟨readableKey_trim hequals hne, unpadded_dash⟩, .bare (encloses_ofList_trim token) rfl⟩
  · rintro ⟨hreadable, hspells⟩
    cases hspells with
    | pair hk hv =>
      obtain ⟨hfirst, htrim, hne⟩ := hreadable.key.of_encloses hk
      rw [entry?_pair hfirst, if_neg hne, htrim, trim_eq_iff.mpr ⟨hv, hreadable.value⟩,
        String.ofList_toList, String.ofList_toList]
    | bare hk hvalue =>
      obtain ⟨hfirst, htrim, hne⟩ := hreadable.key.of_encloses hk
      rw [entry?_bare hfirst, if_neg hne, htrim, String.ofList_toList, ← hvalue]

/-! ## Entries of texts -/

/-- What can be spelled in a text. -/
structure Admissible (e : String × String) : Prop extends Readable e where
  keySemicolon : ';' ∉ e.1.toList
  valueSemicolon : ';' ∉ e.2.toList

instance (e : String × String) : Decidable (Admissible e) :=
  decidable_of_iff (e.1 ≠ "" ∧ Unpadded e.1.toList ∧ '=' ∉ e.1.toList ∧ Unpadded e.2.toList ∧
      ';' ∉ e.1.toList ∧ ';' ∉ e.2.toList)
    ⟨fun ⟨hnonempty, hkey, hequals, hvalue, hk, hv⟩ =>
        ⟨⟨⟨hnonempty, hkey, hequals⟩, hvalue⟩, hk, hv⟩,
      fun h => ⟨h.key.nonempty, h.key.unpadded, h.key.equals, h.value, h.keySemicolon,
        h.valueSemicolon⟩⟩

/-- A token has a semicolon only if the entry that it spells has one. -/
theorem Spells.not_mem (h : Spells e token) (he : Admissible e) : ';' ∉ token := by
  cases h with
  | pair hk hv =>
    have hkey := not_mem_of_encloses (by decide) hk he.keySemicolon
    have hvalue := not_mem_of_encloses (by decide) hv he.valueSemicolon
    simp [hkey, hvalue]
  | bare hk hvalue => exact not_mem_of_encloses (by decide) hk he.keySemicolon

theorem Spells.admissible (h : Spells e token) (he : Readable e) (hnone : ';' ∉ token) :
    Admissible e := by
  cases h with
  | pair hk hv =>
    refine ⟨he, fun hmem => hnone ?_, fun hmem => hnone ?_⟩
    · exact List.mem_append_left _ (mem_of_encloses hk hmem)
    · exact List.mem_append_right _ (List.mem_cons_of_mem _ (mem_of_encloses hv hmem))
  | bare hk hvalue =>
    refine ⟨he, fun hmem => hnone (mem_of_encloses hk hmem), ?_⟩
    rw [hvalue]
    decide

variable {a b text : String} {tokens : List (List Char)} {entries' : List (String × String)}

theorem admissible_of_mem_entries (h : e ∈ entries text) : Admissible e := by
  obtain ⟨token, htoken, hentry⟩ := List.mem_filterMap.mp h
  obtain ⟨hreadable, hspells⟩ := entry?_eq_some_iff.mp hentry
  exact hspells.admissible hreadable (not_mem_of_mem_splitAll htoken)

theorem entries_append (a b : String) : entries (a ++ ";" ++ b) = entries a ++ entries b := by
  have hsplit : (a ++ ";" ++ b).toList = a.toList ++ ';' :: b.toList := by
    simp [String.toList_append]
  simp only [entries, splitAll_eq_splitOn, hsplit, List.splitOn_append_cons_self,
    List.filterMap_append]

/-! ## Maps of texts -/

theorem ascending_ofText (text : String) : (ofText text).Ascending :=
  Ascending.insertAll List.Pairwise.nil _

theorem admissible_of_mem_ofText (h : e ∈ ofText text) : Admissible e := by
  rcases mem_insertAll h with h | h
  · exact admissible_of_mem_entries h
  · cases h

/-- The last value of a key counts. -/
theorem get?_ofText (text key : String) :
    (ofText text).get? key = get? key (entries text).reverse := by
  rw [ofText, get?_insertAll, get?, Option.or_none]

/-- A token has a key, whatever its value. -/
def HasKey (key : String) (token : List Char) : Prop := ∃ value, Spells (key, value) token

/-- A value may be read without the blanks around it. -/
theorem hasKey_iff {key : String} (hkey : ReadableKey key) :
    HasKey key token ↔ ∃ value, entry? token = some (key, value) := by
  constructor
  · rintro ⟨value, hspells⟩
    cases hspells with
    | pair hk hv =>
      exact ⟨String.ofList (trim _), entry?_eq_some_iff.mpr
        ⟨⟨hkey, unpadded_ofList_trim _⟩, .pair hk (encloses_ofList_trim _)⟩⟩
    | bare hk hvalue =>
      exact ⟨"-", entry?_eq_some_iff.mpr ⟨⟨hkey, unpadded_dash⟩, .bare hk rfl⟩⟩
  · rintro ⟨value, hentry⟩
    exact ⟨value, (entry?_eq_some_iff.mp hentry).2⟩

/-- The last token of the text that has the key spells the value. -/
def LastSpells (key value text : String) : Prop :=
  ∃ before token after, text.toList = [';'].intercalate (before ++ token :: after) ∧
    (∀ t ∈ before ++ token :: after, ';' ∉ t) ∧ Spells (key, value) token ∧
    ∀ t ∈ after, ¬ HasKey key t

theorem get?_entries_reverse_eq_some_iff {text key value : String} :
    get? key (entries text).reverse = some value ↔ ∃ before token after,
      splitAll ';' text.toList = before ++ token :: after ∧ entry? token = some (key, value) ∧
      ∀ t ∈ after, ∀ value, entry? t ≠ some (key, value) := by
  rw [get?_eq_some_iff]
  constructor
  · rintro ⟨before, after, hreverse, hbefore⟩
    have hentries : entries text = after.reverse ++ (key, value) :: before.reverse := by
      simpa using congrArg List.reverse hreverse
    obtain ⟨front, back, hsplit, -, hback⟩ := List.filterMap_eq_append_iff.mp hentries
    obtain ⟨skipped, token, rest, rfl, -, htoken, hrest⟩ := List.filterMap_eq_cons_iff.mp hback
    refine ⟨front ++ skipped, token, rest, by rw [hsplit, List.append_assoc], htoken,
      fun t ht v hv => ?_⟩
    have hmem : (key, v) ∈ before.reverse := hrest ▸ List.mem_filterMap.mpr ⟨t, ht, hv⟩
    exact hbefore _ (List.mem_reverse.mp hmem) rfl
  · rintro ⟨before, token, after, hsplit, htoken, hafter⟩
    refine ⟨(after.filterMap entry?).reverse, (before.filterMap entry?).reverse, ?_,
      fun e he hk => ?_⟩
    · rw [entries, hsplit, List.filterMap_append, List.filterMap_cons_some htoken]
      simp
    · obtain ⟨t, ht, hentry⟩ := List.mem_filterMap.mp (List.mem_reverse.mp he)
      exact hafter t ht e.2 (hentry.trans (by rw [← hk]))

/-- A key has a value if the last token with the key spells it. -/
theorem get?_ofText_eq_some_iff {text key value : String} (hkey : ReadableKey key)
    (hvalue : Unpadded value.toList) :
    (ofText text).get? key = some value ↔ LastSpells key value text := by
  have hlacks {after : List (List Char)} : (∀ t ∈ after, ¬ HasKey key t) ↔
      ∀ t ∈ after, ∀ value, entry? t ≠ some (key, value) := by
    simp only [hasKey_iff hkey, not_exists, ne_eq]
  rw [get?_ofText, get?_entries_reverse_eq_some_iff]
  constructor
  · rintro ⟨before, token, after, hsplit, htoken, hafter⟩
    obtain ⟨-, hjoin, hnone⟩ := splitAll_eq_iff.mp hsplit
    exact ⟨before, token, after, hjoin.symm, hnone, (entry?_eq_some_iff.mp htoken).2,
      hlacks.mpr hafter⟩
  · rintro ⟨before, token, after, hjoin, hnone, hspells, hafter⟩
    have hne : before ++ token :: after ≠ [] := by simp
    exact ⟨before, token, after, splitAll_eq_iff.mpr ⟨hne, hjoin.symm, hnone⟩,
      entry?_eq_some_iff.mpr ⟨⟨hkey, hvalue⟩, hspells⟩, hlacks.mp hafter⟩

theorem ofText_append (a b : String) : ofText (a ++ ";" ++ b) = (ofText a).override (ofText b) := by
  refine (ascending_ofText _).ext ((ascending_ofText a).override _) fun key => ?_
  rw [get?_override (ascending_ofText b), get?_ofText, get?_ofText, get?_ofText, entries_append,
    List.reverse_append, get?_append]

/-- Tokens that are written for entries, one after the other. Between them there may be tokens of
nothing but blanks. -/
inductive Lists : List (List Char) → List (String × String) → Prop where
  | nil : Lists [] []
  | blank {token tokens entries} (blanks : Blanks token) (rest : Lists tokens entries) :
    Lists (token :: tokens) entries
  | entry {e token tokens entries} (spells : Spells e token) (rest : Lists tokens entries) :
    Lists (token :: tokens) (e :: entries)

/-- The text is written for the map, with its entries in any order. -/
def Writes (m : Options) (text : String) : Prop :=
  ∃ tokens entries, text.toList = [';'].intercalate tokens ∧ Lists tokens entries ∧ entries.Perm m

theorem entry?_of_blanks (h : Blanks token) : entry? token = none := by
  have htrim : trim token = [] := trim_eq_nil_iff.mpr h
  have hbare : '=' ∉ token := fun hmem => absurd (h _ hmem) (by decide)
  rw [entry?_bare hbare, if_pos htrim]

theorem Lists.filterMap_eq (h : Lists tokens entries') (heach : ∀ e ∈ entries', Readable e) :
    tokens.filterMap entry? = entries' := by
  induction h with
  | nil => rfl
  | blank blanks rest ih => rw [List.filterMap_cons_none (entry?_of_blanks blanks), ih heach]
  | entry spells rest ih =>
    obtain ⟨hfirst, hrest⟩ := List.forall_mem_cons.mp heach
    rw [List.filterMap_cons_some (entry?_eq_some_iff.mpr ⟨hfirst, spells⟩), ih hrest]

theorem Lists.not_mem (h : Lists tokens entries') (heach : ∀ e ∈ entries', Admissible e) :
    ∀ token ∈ tokens, ';' ∉ token := by
  induction h with
  | nil => exact List.forall_mem_nil _
  | blank blanks rest ih =>
    refine List.forall_mem_cons.mpr ⟨fun hmem => ?_, ih heach⟩
    exact absurd (blanks _ hmem) (by decide)
  | entry spells rest ih =>
    obtain ⟨hfirst, hrest⟩ := List.forall_mem_cons.mp heach
    exact List.forall_mem_cons.mpr ⟨spells.not_mem hfirst, ih hrest⟩

/-- The entries of a text are those that its tokens were written for. -/
theorem entries_of_lists (htext : text.toList = [';'].intercalate tokens)
    (h : Lists tokens entries') (heach : ∀ e ∈ entries', Admissible e) :
    entries text = entries' := by
  have hread := h.filterMap_eq fun e he => (heach e he).toReadable
  cases tokens with
  | nil =>
    rw [List.filterMap_nil] at hread
    rw [entries, htext, ← hread]
    rfl
  | cons token tokens =>
    have hsplit : splitAll ';' text.toList = token :: tokens :=
      splitAll_eq_iff.mpr ⟨List.cons_ne_nil _ _, htext.symm, h.not_mem heach⟩
    rw [entries, hsplit, hread]

theorem ofText_of_writes {m : Options} (hm : m.Ascending) (heach : ∀ e ∈ m, Admissible e)
    (h : Writes m text) : ofText text = m := by
  obtain ⟨tokens, entries', htext, hlists, hperm⟩ := h
  rw [ofText, entries_of_lists htext hlists fun e he => heach e (hperm.mem_iff.mp he)]
  exact insertAll_of_perm hm hperm

/-- Option texts compose, and they and the maps of admissible entries belong together: a text in
front of another one is overridden by it key by key, every text spells a map of admissible entries,
and every such map comes back from every text that is written for it. -/
theorem ofText_composes_and_returns (a b text : String) (m : Options) :
    (ofText (a ++ ";" ++ b) = (ofText a).override (ofText b) ∧
      ∀ key, (ofText (a ++ ";" ++ b)).get? key = ((ofText b).get? key).or ((ofText a).get? key)) ∧
      ((ofText text).Ascending ∧ ∀ e ∈ ofText text, Admissible e) ∧
      (m.Ascending → (∀ e ∈ m, Admissible e) → Writes m text → ofText text = m) := by
  refine ⟨⟨ofText_append a b, fun key => ?_⟩,
    ⟨ascending_ofText text, fun e => admissible_of_mem_ofText⟩, ofText_of_writes⟩
  rw [ofText_append, get?_override (ascending_ofText b)]

/-- A text with blanks, empty tokens, a bare key, and equals signs in a value. -/
theorem ofText_composes_and_returns_sizedDefault :
    let m : Options := [("default", "a=b"), ("primary", "-"), ("size", "")]
    Ascending m ∧ (∀ e ∈ m, Admissible e) ∧ Writes m " size =;; primary ;default= a=b; " ∧
      ofText " size =;; primary ;default= a=b; " = m := by
  intro m
  have hm : Ascending m := by decide
  have heach : ∀ e ∈ m, Admissible e := by decide
  have hwrites : Writes m " size =;; primary ;default= a=b; " := by
    refine ⟨[" size =".toList, [], " primary ".toList, "default= a=b".toList, [' ']],
      [("size", ""), ("primary", "-"), ("default", "a=b")], by decide, ?_, by decide⟩
    refine .entry (.pair (k := " size ".toList) (v := []) ⟨[' '], [' '], ?_⟩ ⟨[], [], ?_⟩)
      (.blank ?_ (.entry (.bare ⟨[' '], [' '], ?_⟩ rfl)
        (.entry (.pair (k := "default".toList) (v := " a=b".toList) ⟨[], [], ?_⟩ ⟨[' '], [], ?_⟩)
          (.blank ?_ .nil)))) <;> decide
  exact ⟨hm, heach, hwrites, (ofText_composes_and_returns "" "" _ m).2.2 hm heach hwrites⟩

end RelMap.Options
