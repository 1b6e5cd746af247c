import BuildingEmulation.Config.SocketAddress
import Mathlib.Data.List.TakeDrop

/-!
# Socket addresses read back

The text of an address is an address again, and the same one. Behind each part of the text stands
something that the reader of that part cannot take in: behind a number no digit (`Ends`), behind a
group no digit or point (`Closes`), behind the groups nothing that starts another one (`Stops`).
The run of groups that is left out is a run of zeros that lies within the groups (`IsRun`), which
is all that filling it in again needs.

Results:
* `number?_toDigits`: digits in front of what ends them are read as the number they are for.
* `isRun_longestRun`: the run that is left out is one.
* `hostGroups?_groupsOfHost`: a host is read back, however its groups are written.
* `ofText?_text`: an address is read back.
-/
namespace BuildingEmulation.SocketAddress

/-! ## Numbers -/

/-- Nothing in front of which a number in some radix could go on. -/
def Ends (radix : Nat) (cs : List Char) : Prop :=
  ∀ c rest, cs = c :: rest → digit? radix c = none

theorem ends_nil (radix : Nat) : Ends radix [] := nofun

theorem ends_cons {radix : Nat} {c : Char} (h : digit? radix c = none) (rest : List Char) :
    Ends radix (c :: rest) := by
  intro c' rest' heq
  cases heq
  exact h

/-- Radices whose digits are read as what they are written for. -/
structure Radix (radix : Nat) : Prop where
  two_le : 2 ≤ radix
  digit? : ∀ d < radix, digit? radix d.digitChar = some d

theorem radix_ten : Radix 10 := ⟨by decide, by decide⟩

theorem radix_sixteen : Radix 16 := ⟨by decide, by decide⟩

section

variable {radix : Nat} (hr : Radix radix)

include hr

theorem digit?_of_mem_toDigits {n : Nat} :
    ∀ c ∈ Nat.toDigits radix n, ∃ d < radix, c = d.digitChar := by
  induction n using Nat.strongRecOn with
  | ind n ih =>
    have := hr.two_le
    rw [Nat.toDigits_eq_if hr.two_le]
    intro c hc
    split at hc
    · next h => exact ⟨n, h, List.mem_singleton.1 hc⟩
    · next h =>
      rcases List.mem_append.1 hc with hc | hc
      · exact ih (n / radix) (Nat.div_lt_self (by omega) hr.two_le) c hc
      · exact ⟨n % radix, Nat.mod_lt _ (by omega), List.mem_singleton.1 hc⟩

theorem foldl_toDigits (n : Nat) :
    (Nat.toDigits radix n).foldl (fun n c => n * radix + (digit? radix c).getD 0) 0 = n := by
  induction n using Nat.strongRecOn with
  | ind n ih =>
    have := hr.two_le
    rw [Nat.toDigits_eq_if hr.two_le]
    split
    · next h => simp [hr.digit? n h]
    · next h =>
      rw [List.foldl_append, ih (n / radix) (Nat.div_lt_self (by omega) hr.two_le)]
      simp [hr.digit? _ (Nat.mod_lt n (by omega : radix > 0)), Nat.div_add_mod']

theorem number?_toDigits {bound n : Nat} {maxDigits : Option Nat} {leadingZeros : Bool}
    {rest : List Char} (hn : n < bound)
    (short : ∀ m, maxDigits = some m → (Nat.toDigits radix n).length ≤ m)
    (zeros : leadingZeros = true ∨ (Nat.toDigits radix n).head? ≠ some '0' ∨
      (Nat.toDigits radix n).length ≤ 1) (ends : Ends radix rest) :
    number? radix bound maxDigits leadingZeros (Nat.toDigits radix n ++ rest) = some (n, rest) := by
  have digits : (Nat.toDigits radix n ++ rest).takeWhile (fun c => (digit? radix c).isSome) =
      Nat.toDigits radix n := by
    rw [List.takeWhile_append_of_pos]
    · cases rest with
      | nil => simp
      | cons c rest => simp [ends c rest rfl]
    · intro c hc
      obtain ⟨d, hd, rfl⟩ := digit?_of_mem_toDigits hr c hc
      rw [hr.digit? d hd]
      rfl
  have filled : (Nat.toDigits radix n).isEmpty = false := by simp
  have plain : (!leadingZeros && decide (1 < (Nat.toDigits radix n).length) &&
      decide ((Nat.toDigits radix n).head? = some '0')) = false := by
    grind
  cases maxDigits with
  | none =>
    simp only [number?, digits, foldl_toDigits hr, filled, plain, List.drop_left,
      Nat.not_le.2 hn, decide_false, Bool.or_false, Bool.false_eq_true, if_false]
  | some m =>
    simp only [number?, digits, foldl_toDigits hr, filled, plain, List.drop_left,
      Nat.not_le.2 hn, Nat.not_lt.2 (short m rfl), decide_false, Bool.or_false,
      Bool.false_eq_true, if_false]

end

theorem drop_takeWhile_length (p : Char → Bool) (cs : List Char) :
    cs.drop (cs.takeWhile p).length = cs.dropWhile p :=
  calc cs.drop (cs.takeWhile p).length
    _ = (cs.takeWhile p ++ cs.dropWhile p).drop (cs.takeWhile p).length := by
      rw [List.takeWhile_append_dropWhile]
    _ = cs.dropWhile p := List.drop_left

/-- A number takes every digit there is. -/
theorem number?_rest {radix bound n : Nat} {maxDigits : Option Nat} {leadingZeros : Bool}
    {cs rest : List Char} (h : number? radix bound maxDigits leadingZeros cs = some (n, rest)) :
    rest = cs.dropWhile fun c => (digit? radix c).isSome := by
  simp only [number?, drop_takeWhile_length, Option.ite_none_left_eq_some, Option.some.injEq,
    Prod.mk.injEq] at h
  exact h.2.2.2.symm

theorem number?_eq_none {radix bound : Nat} {maxDigits : Option Nat} {leadingZeros : Bool}
    {cs : List Char} (ends : Ends radix cs) :
    number? radix bound maxDigits leadingZeros cs = none := by
  have : cs.takeWhile (fun c => (digit? radix c).isSome) = [] := by
    cases cs with
    | nil => rfl
    | cons c rest => simp [ends c rest rfl]
  simp [number?, this]

/-! ## Octets -/

/-- The characters of a decimal number. -/
def decimal (n : Nat) : List Char := Nat.toDigits 10 n

theorem toList_toString (n : Nat) : (toString n).toList = decimal n := Nat.toList_repr

theorem toString_text (s : String) : toString s = s := rfl

/-- The characters of four octets. -/
def octetChars : UInt8 × UInt8 × UInt8 × UInt8 → List Char
  | (a, b, c, d) =>
    decimal a.toNat ++
      '.' :: (decimal b.toNat ++ '.' :: (decimal c.toNat ++ '.' :: decimal d.toNat))

theorem digits_octet : ∀ n < 256, (Nat.toDigits 10 n).length ≤ 3 ∧
    ((Nat.toDigits 10 n).head? ≠ some '0' ∨ (Nat.toDigits 10 n).length ≤ 1) := by
  decide +kernel

theorem octet?_decimal (a : UInt8) {rest : List Char} (ends : Ends 10 rest) :
    octet? (decimal a.toNat ++ rest) = some (a, rest) := by
  obtain ⟨short, zeros⟩ := digits_octet a.toNat a.toNat_lt
  unfold octet? decimal
  rw [number?_toDigits radix_ten a.toNat_lt (by simpa using short) (.inr zeros) ends]
  simp

theorem ends_point (rest : List Char) : Ends 10 ('.' :: rest) := ends_cons (by decide) rest

theorem octets?_octetChars (o : UInt8 × UInt8 × UInt8 × UInt8) {rest : List Char}
    (ends : Ends 10 rest) : octets? (octetChars o ++ rest) = some (o, rest) := by
  obtain ⟨a, b, c, d⟩ := o
  simp only [octets?, octetChars, List.append_assoc, List.cons_append,
    octet?_decimal _ (ends_point _), octet?_decimal _ ends, after?, if_true, Option.bind_eq_bind,
    Option.bind_some, Option.pure_def]

theorem port?_decimal (p : UInt16) : port? (':' :: decimal p.toNat) = some p := by
  have read : number? 10 65536 none true (decimal p.toNat ++ []) = some (p.toNat, []) :=
    number?_toDigits radix_ten p.toNat_lt nofun (.inl rfl) (ends_nil 10)
  rw [List.append_nil] at read
  simp [port?, after?, read]

theorem v4?_text (a b c d : UInt8) (p : UInt16) :
    v4? (octetChars (a, b, c, d) ++ ':' :: decimal p.toNat) = some ⟨.v4 a b c d, p⟩ := by
  simp [v4?, octets?_octetChars _ (ends_cons (by decide : digit? 10 ':' = none) _), port?_decimal]

/-! ## Groups -/

/-- The characters of a group. -/
def hex (g : UInt16) : List Char := Nat.toDigits 16 g.toNat

/-- Groups, each behind a colon. -/
def following (groups : List UInt16) : List Char := groups.flatMap fun g => ':' :: hex g

/-- Groups with colons between them. -/
def between : List UInt16 → List Char
  | [] => []
  | g :: rest => hex g ++ following rest

theorem toList_groupsText (groups : List UInt16) : (groupsText groups).toList = between groups := by
  induction groups with
  | nil => rfl
  | cons g rest ih =>
    cases rest with
    | nil => simp [groupsText, hexDigits, between, following, hex]
    | cons g' rest =>
      simp only [groupsText, String.toList_intercalate, List.map_cons, List.intercalate_cons_cons]
        at ih ⊢
      rw [ih]
      simp [hexDigits, between, following, hex]

theorem group?_hex (g : UInt16) {rest : List Char} (ends : Ends 16 rest) :
    group? (hex g ++ rest) = some (g, rest) := by
  have short : (Nat.toDigits 16 g.toNat).length ≤ 4 :=
    (Nat.length_toDigits_le_iff (by decide) (by decide)).2 g.toNat_lt
  unfold group? hex
  rw [number?_toDigits radix_sixteen g.toNat_lt (by simpa using short) (.inl rfl) ends]
  simp

theorem ends_ten {cs : List Char} (ends : Ends 16 cs) : Ends 10 cs := by
  intro c rest heq
  have := ends c rest heq
  simp only [digit?] at this ⊢
  grind

theorem octets?_eq_none {cs : List Char}
    (h : (cs.dropWhile fun c => (digit? 10 c).isSome).head? ≠ some '.') : octets? cs = none := by
  cases read : octet? cs with
  | none => simp [octets?, read]
  | some r =>
    obtain ⟨a, rest⟩ := r
    obtain ⟨⟨n, rest'⟩, number, heq⟩ := Option.map_eq_some_iff.1 read
    obtain rfl : rest' = rest := congrArg Prod.snd heq
    rw [← number?_rest number] at h
    have : after? '.' rest' = none := by
      cases rest' with
      | nil => rfl
      | cons c rest => simpa [after?] using h
    simp [octets?, read, this]

theorem head?_dropWhile_hex (p : Char → Bool) (g : UInt16) {rest : List Char}
    (h : (rest.dropWhile p).head? ≠ some '.') :
    ((hex g ++ rest).dropWhile p).head? ≠ some '.' := by
  rw [List.dropWhile_append]
  split
  · exact h
  · next filled =>
    intro heq
    have : '.' ∈ hex g := by
      cases left : (hex g).dropWhile p with
      | nil => simp [left] at filled
      | cons c more =>
        obtain rfl : c = '.' := by simpa [left] using heq
        exact (List.dropWhile_suffix p).subset (left ▸ List.mem_cons_self)
    obtain ⟨d, hd, heq⟩ := digit?_of_mem_toDigits radix_sixteen _ this
    exact absurd heq.symm ((by decide : ∀ d < 16, d.digitChar ≠ '.') d hd)

/-- What may stand behind a group: neither a digit nor a point. -/
def Closes (cs : List Char) : Prop := Ends 16 cs ∧ cs.head? ≠ some '.'

theorem octets?_hex (g : UInt16) {rest : List Char} (closes : Closes rest) :
    octets? (hex g ++ rest) = none := by
  refine octets?_eq_none (head?_dropWhile_hex _ g ?_)
  cases rest with
  | nil => simp
  | cons c more => simpa [ends_ten closes.1 c more rfl] using closes.2

/-- What groups cannot go on with: neither a digit or a point nor a colon in front of a digit. -/
def Stops (cs : List Char) : Prop :=
  Closes cs ∧ ∀ inner, after? ':' cs = some inner → Ends 16 inner

theorem closes_following (groups : List UInt16) {rest : List Char} (stops : Stops rest) :
    Closes (following groups ++ rest) := by
  cases groups with
  | nil => exact stops.1
  | cons g more => exact ⟨ends_cons (by decide) _, by simp [following]⟩

theorem groups?_group (first : Bool) (limit : Nat) {cs : List Char} (g : UInt16)
    (rest : List Char)
    (inner : (if first then some cs else after? ':' cs) = some (hex g ++ rest))
    (closes : Closes rest) :
    groups? first (limit + 1) cs =
      (g :: (groups? false limit rest).1, (groups? false limit rest).2) := by
  simp only [groups?, inner, octets?_hex g closes, group?_hex g closes.1, ite_self]

theorem groups?_stop (first : Bool) (limit : Nat) {cs : List Char}
    (ends : ∀ inner, (if first then some cs else after? ':' cs) = some inner → Ends 16 inner) :
    groups? first limit cs = ([], false, cs) := by
  cases limit with
  | zero => rfl
  | succ limit =>
    unfold groups?
    cases h : (if first then some cs else after? ':' cs) with
    | none => rfl
    | some inner =>
      have octets : octets? inner = none := by
        simp [octets?, octet?, number?_eq_none (ends_ten (ends inner h))]
      have group : group? inner = none := by simp [group?, number?_eq_none (ends inner h)]
      simp only [octets, group, ite_self]

theorem groups?_following (groups : List UInt16) {limit : Nat} (fits : groups.length ≤ limit)
    {rest : List Char} (stops : Stops rest) :
    groups? false limit (following groups ++ rest) = (groups, false, rest) := by
  induction groups generalizing limit with
  | nil => exact groups?_stop false limit stops.2
  | cons g more ih =>
    cases limit with
    | zero => cases fits
    | succ limit =>
      rw [groups?_group false limit g (following more ++ rest)
        (by simp [following, after?]) (closes_following more stops),
        ih (Nat.le_of_succ_le_succ fits)]

theorem groups?_between (groups : List UInt16) {limit : Nat} (fits : groups.length ≤ limit)
    {rest : List Char} (stops : Stops rest) :
    groups? true limit (between groups ++ rest) = (groups, false, rest) := by
  cases groups with
  | nil => exact groups?_stop true limit fun _ h => Option.some.inj h ▸ stops.1.1
  | cons g more =>
    cases limit with
    | zero => cases fits
    | succ limit =>
      rw [groups?_group true limit g (following more ++ rest)
        (by simp [between]) (closes_following more stops),
        groups?_following more (Nat.le_of_succ_le_succ fits) stops]

/-! ## The run that is left out -/

/-- The groups of a run are zeros, and none of them is beyond the end. -/
def IsRun (groups : List UInt16) (run : Nat × Nat) : Prop :=
  (groups.drop run.1).take run.2 = List.replicate run.2 0

/-- The run that is being read is empty or goes up to where the reading is. -/
def Reaches (before : List UInt16) (run : Nat × Nat) : Prop :=
  run.2 = 0 ∨ run.1 ≤ before.length ∧ before.drop run.1 = List.replicate run.2 0

theorem Reaches.zero {before : List UInt16} {run : Nat × Nat} (h : Reaches before run) :
    Reaches (before ++ [0]) (if run.2 = 0 then (before.length, 1) else (run.1, run.2 + 1)) := by
  split
  · exact .inr ⟨by simp, by simp⟩
  · next filled =>
    obtain empty | ⟨le, zeros⟩ := h
    · exact absurd empty filled
    · refine .inr ⟨by simp; omega, ?_⟩
      rw [List.drop_append_of_le_length le, zeros, List.replicate_succ']

theorem Reaches.isRun {before : List UInt16} {run : Nat × Nat} (h : Reaches before run)
    (rest : List UInt16) : IsRun (before ++ rest) run := by
  obtain empty | ⟨le, zeros⟩ := h
  · simp [IsRun, empty]
  · unfold IsRun
    rw [List.drop_append_of_le_length le, zeros, List.take_left' (by simp)]

/-- The longest run is one: the runs that were read stay runs with every further group. -/
theorem isRun_longestRun (before rest : List UInt16) (current longest : Nat × Nat)
    (reaches : Reaches before current)
    (run : IsRun (before ++ rest) longest) :
    IsRun (before ++ rest) (longestRun before.length current longest rest) := by
  induction rest generalizing before current longest with
  | nil => exact run
  | cons g rest ih =>
    have next {current longest : Nat × Nat} (reaches : Reaches (before ++ [g]) current)
        (run : IsRun (before ++ g :: rest) longest) :
        IsRun (before ++ g :: rest) (longestRun (before.length + 1) current longest rest) := by
      have := ih (before ++ [g]) current longest reaches (by simpa using run)
      simpa using this
    unfold longestRun
    split
    · next zero =>
      subst zero
      have reaches := reaches.zero
      dsimp only
      -- the run that this zero ends is the current one and, if none is longer, the longest one
      generalize
        (if current.2 = 0 then (before.length, 1) else (current.1, current.2 + 1)) = current
        at reaches ⊢
      refine next reaches ?_
      split
      · simpa using reaches.isRun rest
      · exact run
    · exact next (.inl rfl) run

/-- A run together with what is in front of it and behind it. -/
theorem IsRun.parts {groups : List UInt16} {run : Nat × Nat} (h : IsRun groups run) :
    groups = groups.take run.1 ++ List.replicate run.2 0 ++ groups.drop (run.1 + run.2) := by
  rw [← h, List.append_assoc, ← List.drop_drop, List.take_append_drop, List.take_append_drop]

/-! ## Hosts -/

theorem fill?_eq {head tail : List UInt16} {groups : Vector UInt16 8}
    (h : groups.toList = head ++ List.replicate (8 - head.length - tail.length) 0 ++ tail) :
    fill? head tail = some groups := by
  simp only [fill?, ← h, Vector.toArray_toList, Vector.size_toArray, dite_true]

theorem stops_cons {c : Char} (rest : List Char) (digit : digit? 16 c = none) (point : c ≠ '.')
    (colon : c ≠ ':') : Stops (c :: rest) :=
  ⟨⟨ends_cons digit rest, by simpa using point⟩, by simp [after?, colon]⟩

theorem stops_colons (rest : List Char) : Stops (':' :: ':' :: rest) :=
  ⟨⟨ends_cons (by decide) _, by simp⟩, fun _ h => Option.some.inj h ▸ ends_cons (by decide) rest⟩

theorem hostGroups?_between (groups : Vector UInt16 8) {rest : List Char} (stops : Stops rest) :
    hostGroups? (between groups.toList ++ rest) = some (groups, rest) := by
  have filled : fill? groups.toList [] = some groups := fill?_eq (by simp)
  have read : groups? true 8 (between groups.toList ++ rest) = (groups.toList, false, rest) :=
    groups?_between groups.toList (by simp) stops
  simp only [hostGroups?, read, Vector.length_toList, if_true, filled, Option.bind_eq_bind,
    Option.bind_some, Option.pure_def]

theorem hostGroups?_colons (head : List UInt16) {tail : List UInt16} {groups : Vector UInt16 8}
    {cs rest : List Char} {octets : Bool} (short : head.length < 8)
    (read : groups? true (7 - head.length) cs = (tail, octets, rest))
    (h : groups.toList = head ++ List.replicate (8 - head.length - tail.length) 0 ++ tail) :
    hostGroups? (between head ++ ':' :: ':' :: cs) = some (groups, rest) := by
  simp only [hostGroups?, groups?_between head (Nat.le_of_lt short) (stops_colons cs),
    Nat.ne_of_lt short, if_false, Bool.false_eq_true, after?, if_true, read, fill?_eq h,
    Option.bind_eq_bind, Option.bind_some, Option.pure_def]

/-- The octets of two groups. -/
def octetsOf (g h : UInt16) : UInt8 × UInt8 × UInt8 × UInt8 :=
  ((g.toNat / 256).toUInt8, (g.toNat % 256).toUInt8, (h.toNat / 256).toUInt8,
   (h.toNat % 256).toUInt8)

theorem toNat_high (g : UInt16) : (g.toNat / 256).toUInt8.toNat = g.toNat / 256 :=
  UInt8.toNat_ofNat_of_lt' (Nat.div_lt_of_lt_mul g.toNat_lt)

theorem toNat_low (g : UInt16) : (g.toNat % 256).toUInt8.toNat = g.toNat % 256 :=
  UInt8.toNat_ofNat_of_lt' (Nat.mod_lt _ (by decide))

theorem embed_octetsOf (g h : UInt16) : embed (octetsOf g h) = [g, h] := by
  simp only [embed, octetsOf, toNat_high, toNat_low, Nat.div_add_mod', Nat.toUInt16_eq,
    UInt16.ofNat_toNat]

theorem toList_octets (g h : UInt16) :
    (s!"::ffff:{g.toNat / 256}.{g.toNat % 256}.{h.toNat / 256}.{h.toNat % 256}").toList =
      ':' :: ':' :: (hex 0xFFFF ++ ':' :: octetChars (octetsOf g h)) := by
  simp only [String.toList_append, toList_toString, toString_text, octetChars, octetsOf,
    toNat_high, toNat_low, List.append_assoc]
  rfl

theorem hostGroups?_octets {groups : Vector UInt16 8} {g h : UInt16} {rest : List Char}
    (stops : Stops rest) (eq : groups.toList = [0, 0, 0, 0, 0, 0xFFFF, g, h]) :
    hostGroups? (':' :: ':' :: (hex 0xFFFF ++ ':' :: (octetChars (octetsOf g h) ++ rest))) =
      some (groups, rest) := by
  have octets : groups? false 6 (':' :: (octetChars (octetsOf g h) ++ rest)) =
      ([g, h], true, rest) := by
    simp [groups?, after?, octets?_octetChars _ (ends_ten stops.1.1), embed_octetsOf]
  have read : groups? true 7 (hex 0xFFFF ++ ':' :: (octetChars (octetsOf g h) ++ rest)) =
      ([0xFFFF, g, h], true, rest) := by
    rw [groups?_group true 6 0xFFFF (':' :: (octetChars (octetsOf g h) ++ rest)) (by simp)
      ⟨ends_cons (by decide) _, by simp⟩, octets]
  exact hostGroups?_colons [] (by decide) read (by rw [eq]; rfl)

/-- A host is read back from its groups, whichever of the three ways of writing them is taken. -/
theorem hostGroups?_groupsOfHost (groups : Vector UInt16 8) {rest : List Char}
    (stops : Stops rest) :
    hostGroups? ((groupsOfHost groups.toList).toList ++ rest) = some (groups, rest) := by
  unfold groupsOfHost
  split
  · next g h eq =>
    rw [toList_octets]
    simpa using hostGroups?_octets stops eq
  · have run : IsRun groups.toList (longestRun 0 (0, 0) (0, 0) groups.toList) :=
      isRun_longestRun [] groups.toList (0, 0) (0, 0) (.inl rfl) rfl
    generalize longestRun 0 (0, 0) (0, 0) groups.toList = found at run
    obtain ⟨start, length⟩ := found
    dsimp only
    split
    · rw [toList_groupsText]
      exact hostGroups?_between groups stops
    · next long =>
      have fits : start + length ≤ 8 := by
        have := congrArg List.length run
        simp only [List.length_take, List.length_drop, List.length_replicate,
          Vector.length_toList] at this
        omega
      have head : (groups.toList.take start).length = start := by simp; omega
      have tail : (groups.toList.drop (start + length)).length = 8 - (start + length) := by simp
      have read : groups? true (7 - (groups.toList.take start).length)
          (between (groups.toList.drop (start + length)) ++ rest) =
            (groups.toList.drop (start + length), false, rest) :=
        groups?_between _ (by omega) stops
      have parts : 8 - start - (8 - (start + length)) = length := by omega
      have := hostGroups?_colons (groups.toList.take start) (by omega) read
        (by rw [head, tail, parts]; exact run.parts)
      simpa [toList_groupsText] using this

/-! ## Addresses -/

/-- The characters of a scope. -/
def scopeChars (scope : UInt32) : List Char :=
  if scope = 0 then [] else '%' :: decimal scope.toNat

theorem stops_scopeChars (scope : UInt32) (rest : List Char) :
    Stops (scopeChars scope ++ ']' :: rest) := by
  unfold scopeChars
  split
  · exact stops_cons rest (by decide) (by decide) (by decide)
  · exact stops_cons _ (by decide) (by decide) (by decide)

theorem scope?_scopeChars (scope : UInt32) (rest : List Char) :
    scope? (scopeChars scope ++ ']' :: rest) = some (scope, ']' :: rest) := by
  unfold scopeChars
  split
  · next zero => simp [scope?, zero]
  · have read : number? 10 (pow2 32) none true (decimal scope.toNat ++ ']' :: rest) =
        some (scope.toNat, ']' :: rest) :=
      number?_toDigits radix_ten scope.toNat_lt nofun (.inl rfl) (ends_cons (by decide) rest)
    simp [scope?, read]

theorem toList_text_v4 (a b c d : UInt8) (port : UInt16) :
    (text ⟨.v4 a b c d, port⟩).toList = octetChars (a, b, c, d) ++ ':' :: decimal port.toNat := by
  simp only [text, String.toList_append, toList_toString, toString_text, octetChars,
    List.append_assoc, List.cons_append]
  rfl

theorem toList_scope (scope : UInt32) :
    (if scope = 0 then "" else "%" ++ toString scope.toNat).toList = scopeChars scope := by
  unfold scopeChars
  split
  · rfl
  · simp only [String.toList_append, toList_toString]
    rfl

theorem toList_text_v6 (groups : Vector UInt16 8) (scope : UInt32) (port : UInt16) :
    (text ⟨.v6 groups scope, port⟩).toList =
      '[' :: ((groupsOfHost groups.toList).toList ++
        (scopeChars scope ++ ']' :: ':' :: decimal port.toNat)) := by
  simp only [text, String.toList_append, toList_toString, toString_text, toList_scope,
    List.append_assoc]
  rfl

theorem v6?_text (groups : Vector UInt16 8) (scope : UInt32) (port : UInt16) :
    v6? (text ⟨.v6 groups scope, port⟩).toList = some ⟨.v6 groups scope, port⟩ := by
  rw [toList_text_v6]
  simp [v6?, after?, hostGroups?_groupsOfHost groups (stops_scopeChars scope _),
    scope?_scopeChars, port?_decimal]

/-- Every address is read back from its text. -/
theorem ofText?_text (a : SocketAddress) : ofText? a.text = some a := by
  obtain ⟨host, port⟩ := a
  cases host with
  | v4 a b c d =>
    rw [ofText?, toList_text_v4, v4?_text]
    rfl
  | v6 groups scope =>
    have bracket : v4? (text ⟨.v6 groups scope, port⟩).toList = none := by
      rw [toList_text_v6]
      simp [v4?, octets?, octet?, number?_eq_none (ends_cons (by decide : digit? 10 '[' = none) _)]
    rw [ofText?, bracket, v6?_text]
    rfl

end BuildingEmulation.SocketAddress
