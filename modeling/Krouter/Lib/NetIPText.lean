import Krouter.Lib.BigEndian
import Krouter.Lib.NetIP
import Mathlib.Data.List.TakeDrop
import Mathlib.Data.List.TakeWhile

/-! The texts of addresses and their bytes: the characters of a text, and that an address is read back
from either. -/

namespace NetIP

/-! ## Digits -/

theorem hexValue_digitChar : ∀ n < 16, hexValue (Nat.digitChar n) = some n := by decide

theorem toDigits_induction {p : Nat → List Char → Prop} (hone : ∀ n < 16, p n [Nat.digitChar n])
    (hmore : ∀ n, 16 ≤ n → p (n / 16) (Nat.toDigits 16 (n / 16)) →
      p n (Nat.toDigits 16 (n / 16) ++ [Nat.digitChar (n % 16)])) (n : Nat) :
    p n (Nat.toDigits 16 n) := by
  induction n using Nat.strongRecOn with
  | _ n ih =>
    by_cases hn : n < 16
    · rw [Nat.toDigits_of_lt_base hn]
      exact hone n hn
    · rw [Nat.toDigits_of_base_le (by decide) (by omega)]
      exact hmore n (by omega) (ih (n / 16) (by omega))

theorem isSome_hexValue_toDigits (n : Nat) : ∀ c ∈ Nat.toDigits 16 n, (hexValue c).isSome = true := by
  refine toDigits_induction (p := fun _ cs => ∀ c ∈ cs, (hexValue c).isSome = true) ?_ ?_ n
  · intro n hn c hc
    rw [List.mem_singleton.mp hc, hexValue_digitChar n hn, Option.isSome_some]
  · intro n _ ih c hc
    rcases List.mem_append.mp hc with hc | hc
    · exact ih c hc
    · rw [List.mem_singleton.mp hc, hexValue_digitChar _ (Nat.mod_lt _ (by decide)), Option.isSome_some]

theorem foldlM_toDigits (n : Nat) :
    (Nat.toDigits 16 n).foldlM (fun acc c => (hexValue c).map fun d => acc * 16 + d) 0 = some n := by
  refine toDigits_induction (p := fun n cs =>
    cs.foldlM (fun acc c => (hexValue c).map fun d => acc * 16 + d) 0 = some n) ?_ ?_ n
  · intro n hn
    simp [hexValue_digitChar n hn]
  · intro n _ ih
    rw [List.foldlM_append, ih]
    have hvalue : n / 16 * 16 + n % 16 = n := Nat.div_add_mod' n 16
    simp [hexValue_digitChar _ (Nat.mod_lt n (by decide : 0 < 16)), hvalue]

theorem parseGroup_toDigits {n : Nat} (h : n < 65536) : parseGroup (Nat.toDigits 16 n) = some n := by
  have hlength : (Nat.toDigits 16 n).length ≤ 4 :=
    (Nat.length_toDigits_le_iff (by decide) (by decide)).mpr h
  rw [parseGroup, if_pos ⟨Nat.toDigits_ne_nil, hlength⟩, foldlM_toDigits]

theorem parseOctet_toDigits {n : Nat} (h : n ≤ 255) : parseOctet (Nat.toDigits 10 n) = some n := by
  have hhead : (Nat.toDigits 10 n).length = 1 ∨ (Nat.toDigits 10 n).head? ≠ some '0' := by
    obtain ⟨c, cs, he, hzero⟩ := Decimal.toDigits_head n
    by_cases hc : c = '0'
    · rw [he, hzero hc]
      exact .inl rfl
    · rw [he, List.head?_cons]
      exact .inr fun heq => hc (Option.some.inj heq)
  have hvalue : (Nat.toDigits 10 n).foldl (fun acc c => acc * 10 + (c.toNat - 48)) 0 = n := by
    have hdigits := Nat.ofDigitChars_toDigits (b := 10) (n := n) (by decide) (by decide)
    rw [Nat.ofDigitChars_eq_foldl] at hdigits
    simp only [Nat.mul_comm 10] at hdigits
    exact hdigits
  rw [parseOctet, if_pos ⟨Nat.toDigits_ne_nil, List.all_eq_true.mpr (Decimal.toDigits_all n), hhead⟩]
  rw [hvalue, if_pos h]

/-! ## Joined texts -/

theorem mem_intercalate {α : Type} {x c : α} {ls : List (List α)} (h : c ∈ [x].intercalate ls) :
    c = x ∨ ∃ l ∈ ls, c ∈ l := by
  induction ls with
  | nil => cases h
  | cons l ls ih =>
    cases ls with
    | nil =>
      rw [List.intercalate_singleton] at h
      exact .inr ⟨l, List.mem_singleton_self l, h⟩
    | cons l' ls =>
      rw [List.intercalate_cons_cons, List.mem_append, List.mem_append, List.mem_singleton] at h
      rcases h with (h | h) | h
      · exact .inr ⟨l, (.head _), h⟩
      · exact .inl h
      · rcases ih h with h | ⟨m, hm, hc⟩
        · exact .inl h
        · exact .inr ⟨m, List.mem_cons_of_mem l hm, hc⟩

theorem find?_eq_of_unique {α : Type} {p : α → Bool} {l : List α} {a : α} (ha : a ∈ l) (hp : p a = true)
    (h : ∀ b ∈ l, p b = true → b = a) : l.find? p = some a := by
  obtain ⟨b, hb⟩ := Option.isSome_iff_exists.mp (List.find?_isSome.mpr ⟨a, ha, hp⟩)
  rw [hb, h b (List.mem_of_find?_eq_some hb) (List.find?_some hb)]

/-! ## IPv4 -/

variable (bits : BitVec 32) {c : Char} {gs : List Nat} {cs : List Char}

theorem toList_ipv4Text :
    (Addr.ipv4Text bits).toList = ['.'].intercalate ((Addr.octets bits).map (Nat.toDigits 10)) := by
  rw [Addr.ipv4Text, String.toList_intercalate, List.map_map]
  simp [Function.comp_def]

theorem ipv4Text_chars : ∀ c ∈ (Addr.ipv4Text bits).toList, c = '.' ∨ Decimal.isDigit c = true := by
  intro c hc
  rw [toList_ipv4Text] at hc
  rcases mem_intercalate hc with h | ⟨l, hl, hc⟩
  · exact .inl h
  · obtain ⟨n, -, rfl⟩ := List.mem_map.mp hl
    exact .inr (Decimal.toDigits_all n c hc)

theorem dot_mem_ipv4Text : '.' ∈ (Addr.ipv4Text bits).toList := by
  rw [toList_ipv4Text, Addr.octets, List.map_cons, List.map_cons, List.intercalate_cons_cons]
  simp

theorem octets_le : ∀ n ∈ Addr.octets bits, n ≤ 255 := by
  have hlt := bits.isLt
  simp only [Addr.octets, List.forall_mem_cons, List.not_mem_nil, false_implies, implies_true, and_true]
  omega

theorem parseIPv4_ipv4Text : parseIPv4 (Addr.ipv4Text bits).toList = some bits := by
  have hdots : ∀ l ∈ (Addr.octets bits).map (Nat.toDigits 10), '.' ∉ l := by
    intro l hl hdot
    obtain ⟨n, -, rfl⟩ := List.mem_map.mp hl
    exact absurd (Decimal.toDigits_all n '.' hdot) (by decide)
  have hsplit : (Addr.ipv4Text bits).toList.splitOn '.' = (Addr.octets bits).map (Nat.toDigits 10) := by
    rw [toList_ipv4Text]
    exact List.splitOn_intercalate '.' hdots (by simp [Addr.octets])
  have hparsed : ((Addr.octets bits).map (Nat.toDigits 10)).map parseOctet = (Addr.octets bits).map some := by
    rw [List.map_map]
    exact List.map_congr_left fun n hn => parseOctet_toDigits (octets_le bits n hn)
  rw [parseIPv4, hsplit, hparsed]
  have hlt := bits.isLt
  simp only [Addr.octets, List.map_cons, List.map_nil, Option.some.injEq]
  refine BitVec.eq_of_toNat_eq ?_
  rw [BitVec.toNat_ofNat]
  omega

theorem parseAddr_v4 : parseAddr (Addr.v4 bits).toText = some (.v4 bits) := by
  have hfirst : (Addr.ipv4Text bits).toList.find? (fun c => c = '.' || c = ':' || c = '%') = some '.' := by
    refine find?_eq_of_unique (dot_mem_ipv4Text bits) (by decide) fun c hc hspecial => ?_
    rcases ipv4Text_chars bits c hc with hdot | hdigit
    · exact hdot
    · simp only [Bool.or_eq_true, decide_eq_true_eq] at hspecial
      rcases hspecial with (rfl | rfl) | rfl <;> exact absurd hdigit (by decide)
  rw [parseAddr, Addr.toText, hfirst]
  change (parseIPv4 _).map Addr.v4 = _
  rw [parseIPv4_ipv4Text, Option.map_some]

/-! ## IPv6 -/

def isGroupChar (c : Char) : Bool := c = ':' || (hexValue c).isSome

theorem toList_groupTexts (gs : List Nat) :
    (Addr.groupTexts gs).toList = [':'].intercalate (gs.map (Nat.toDigits 16)) := by
  rw [Addr.groupTexts, String.toList_intercalate, List.map_map]
  simp [Function.comp_def]

theorem groupTexts_chars (gs : List Nat) : ∀ c ∈ (Addr.groupTexts gs).toList, isGroupChar c = true := by
  intro c hc
  rw [toList_groupTexts] at hc
  rcases mem_intercalate hc with rfl | ⟨l, hl, hc⟩
  · decide
  · obtain ⟨n, -, rfl⟩ := List.mem_map.mp hl
    rw [isGroupChar, isSome_hexValue_toDigits n c hc, Bool.or_true]

theorem notMem_toDigits (hc : hexValue c = none) (n : Nat) : c ∉ Nat.toDigits 16 n := by
  intro h
  have hsome := isSome_hexValue_toDigits n c h
  rw [hc] at hsome
  cases hsome

theorem parseGroups_toDigits (ipv4 : Bool) (h : ∀ g ∈ gs, g < 65536) :
    parseGroups ipv4 (gs.map (Nat.toDigits 16)) = some gs := by
  induction gs with
  | nil => rfl
  | cons g gs ih =>
    have hg := parseGroup_toDigits (h g (.head _))
    cases gs with
    | nil =>
      have hdot : (Nat.toDigits 16 g).contains '.' = false := by
        rw [List.contains_eq_mem, decide_eq_false_iff_not]
        exact notMem_toDigits (by decide) g
      rw [List.map_cons, List.map_nil, parseGroups, hdot, Bool.and_false, if_neg Bool.false_ne_true, hg]
      rfl
    | cons g' gs =>
      have hrest := ih fun d hd => h d (List.mem_cons_of_mem g hd)
      rw [List.map_cons] at hrest ⊢
      rw [List.map_cons, parseGroups, hg, Option.bind_some, hrest, Option.map_some]
      · exact fun he => by cases he

theorem splitOn_groupTexts (hne : gs ≠ []) :
    (Addr.groupTexts gs).toList.splitOn ':' = gs.map (Nat.toDigits 16) := by
  rw [toList_groupTexts]
  refine List.splitOn_intercalate ':' (fun l hl => ?_) (by simpa using hne)
  obtain ⟨n, -, rfl⟩ := List.mem_map.mp hl
  exact notMem_toDigits (by decide) n

theorem groupTexts_ne_nil (hne : gs ≠ []) : (Addr.groupTexts gs).toList ≠ [] := by
  intro h
  have hsplit := splitOn_groupTexts hne
  rw [h] at hsplit
  cases gs with
  | nil => exact hne rfl
  | cons g gs =>
    have hhead : ([] : List Char) = Nat.toDigits 16 g := (List.cons.inj hsplit).1
    exact Nat.toDigits_ne_nil hhead.symm

theorem parseSide_groupTexts (ipv4 : Bool) (h : ∀ g ∈ gs, g < 65536) :
    parseSide ipv4 (Addr.groupTexts gs).toList = some gs := by
  by_cases hne : gs = []
  · rw [hne]
    rfl
  · rw [parseSide, if_neg (groupTexts_ne_nil hne), splitOn_groupTexts hne, parseGroups_toDigits ipv4 h]

theorem cutEllipsis_cons (hc : c ≠ ':') (cs : List Char) :
    cutEllipsis (c :: cs) = (cutEllipsis cs).map fun p => (c :: p.1, p.2) := by
  rw [cutEllipsis]
  intro rest he
  exact absurd he hc

theorem cutEllipsis_colon (hc : c ≠ ':') (cs : List Char) :
    cutEllipsis (':' :: c :: cs) = (cutEllipsis (c :: cs)).map fun p => (':' :: p.1, p.2) := by
  rw [cutEllipsis]
  intro rest _ he
  exact absurd (List.cons.inj he).1 hc

theorem cutEllipsis_intercalate {ts : List (List Char)} (h : ∀ t ∈ ts, t ≠ [] ∧ ':' ∉ t)
    (rest : List Char) : cutEllipsis ([':'].intercalate ts ++ rest) =
      (cutEllipsis rest).map fun p => ([':'].intercalate ts ++ p.1, p.2) := by
  have hone : ∀ (t rest : List Char), ':' ∉ t →
      cutEllipsis (t ++ rest) = (cutEllipsis rest).map fun p => (t ++ p.1, p.2) := by
    intro t rest ht
    induction t with
    | nil => simp
    | cons c t ih =>
      have hc : c ≠ ':' := fun he => ht (he ▸ List.mem_cons_self)
      rw [List.cons_append, cutEllipsis_cons hc, ih fun hm => ht (List.mem_cons_of_mem c hm),
        Option.map_map]
      rfl
  induction ts with
  | nil => simp [List.intercalate]
  | cons t ts ih =>
    obtain ⟨-, ht⟩ := h t (.head _)
    cases ts with
    | nil => rw [List.intercalate_singleton, hone t rest ht]
    | cons t' ts =>
      have hrest := ih fun d hd => h d (List.mem_cons_of_mem t hd)
      -- the colon is followed by a group, which starts with something else
      obtain ⟨c, cs, hcs, hc⟩ : ∃ c cs, [':'].intercalate (t' :: ts) ++ rest = c :: cs ∧ c ≠ ':' := by
        obtain ⟨hne, ht'⟩ := h t' (by simp)
        obtain ⟨c, cs, rfl⟩ := List.exists_cons_of_ne_nil hne
        have hc : c ≠ ':' := fun he => ht' (he ▸ List.mem_cons_self)
        cases ts with
        | nil => exact ⟨c, cs ++ rest, by simp, hc⟩
        | cons u us =>
          exact ⟨c, cs ++ ':' :: ([':'].intercalate (u :: us) ++ rest), by
            simp [List.intercalate_cons_cons], hc⟩
      rw [List.intercalate_cons_cons, List.append_assoc, List.append_assoc, hone t _ ht, List.singleton_append,
        hcs, cutEllipsis_colon hc, ← hcs, hrest, Option.map_map, Option.map_map]
      simp [Function.comp_def]

theorem cutEllipsis_groupTexts (gs : List Nat) (rest : List Char) :
    cutEllipsis ((Addr.groupTexts gs).toList ++ rest) =
      (cutEllipsis rest).map fun p => ((Addr.groupTexts gs).toList ++ p.1, p.2) := by
  rw [toList_groupTexts]
  refine cutEllipsis_intercalate (fun t ht => ?_) rest
  obtain ⟨n, -, rfl⟩ := List.mem_map.mp ht
  exact ⟨Nat.toDigits_ne_nil, notMem_toDigits (by decide) n⟩

theorem ellipsis_zeros {i run : Nat} (h : Addr.ellipsis gs = some (i, run)) :
    0 < run ∧ gs = gs.take i ++ List.replicate run 0 ++ gs.drop (i + run) := by
  have hrun : 0 < run ∧ run = Addr.zeroRun gs i := by
    -- every candidate that the search holds is a run of zeros
    have hfold : ∀ (is : List Nat) (best : Option (Nat × Nat)),
        (∀ b ∈ best, 0 < b.2 ∧ b.2 = Addr.zeroRun gs b.1) →
        ∀ b ∈ is.foldl (fun best i =>
          let run := Addr.zeroRun gs i
          if 2 ≤ run ∧ (best.map Prod.snd).getD 0 < run then some (i, run) else best) best,
          0 < b.2 ∧ b.2 = Addr.zeroRun gs b.1 := by
      intro is
      induction is with
      | nil => exact fun best hbest => hbest
      | cons j is ih =>
        intro best hbest
        refine ih _ ?_
        dsimp only
        split_ifs with hlonger
        · intro b hb
          cases hb
          exact ⟨by omega, rfl⟩
        · exact hbest
    exact hfold _ none (fun b hb => by cases hb) (i, run) h
  obtain ⟨hpos, rfl⟩ := hrun
  refine ⟨hpos, ?_⟩
  have hzeros : (gs.drop i).takeWhile (· = 0) = List.replicate (Addr.zeroRun gs i) 0 :=
    List.eq_replicate_iff.mpr ⟨rfl, fun b hb => by simpa using List.mem_takeWhile_imp hb⟩
  have hrest : ((gs.drop i).takeWhile (· = 0) ++ (gs.drop i).dropWhile (· = 0)).drop (Addr.zeroRun gs i) =
      (gs.drop i).dropWhile (· = 0) := List.drop_left
  rw [List.takeWhile_append_dropWhile, List.drop_drop] at hrest
  rw [List.append_assoc, ← hzeros, hrest, List.takeWhile_append_dropWhile, List.take_append_drop]

theorem length_around_ellipsis {i run : Nat} (h : Addr.ellipsis gs = some (i, run)) :
    (gs.take i).length + run + (gs.drop (i + run)).length = gs.length := by
  obtain ⟨-, hgs⟩ := ellipsis_zeros h
  conv_rhs => rw [hgs]
  simp only [List.length_append, List.length_replicate]

theorem parseIPv6Groups_ipv6Text (hlength : gs.length = 8) (h : ∀ g ∈ gs, g < 65536) :
    parseIPv6Groups (Addr.ipv6Text gs).toList = some gs := by
  rw [Addr.ipv6Text]
  cases hcut : Addr.ellipsis gs with
  | none =>
    have hnone : cutEllipsis (Addr.groupTexts gs).toList = none := by
      have hall := cutEllipsis_groupTexts gs []
      rwa [List.append_nil] at hall
    have hne : gs ≠ [] := fun he => by rw [he] at hlength; cases hlength
    rw [parseIPv6Groups, hnone]
    rw [splitOn_groupTexts hne, parseGroups_toDigits true h, Option.bind_some, if_pos hlength]
  | some p =>
    obtain ⟨i, run⟩ := p
    obtain ⟨hpos, hgs⟩ := ellipsis_zeros hcut
    have hsome : cutEllipsis (Addr.groupTexts (gs.take i) ++ "::" ++ Addr.groupTexts (gs.drop (i + run))).toList =
        some ((Addr.groupTexts (gs.take i)).toList, (Addr.groupTexts (gs.drop (i + run))).toList) := by
      rw [String.toList_append, String.toList_append, List.append_assoc, cutEllipsis_groupTexts]
      simp [cutEllipsis]
    have hlengths := length_around_ellipsis hcut
    rw [parseIPv6Groups, hsome]
    dsimp only
    rw [parseSide_groupTexts false fun g hg => h g (List.mem_of_mem_take hg), Option.bind_some,
      parseSide_groupTexts true fun g hg => h g (List.mem_of_mem_drop hg), Option.bind_some,
      if_pos (by omega)]
    have hfill : 8 - (gs.take i).length - (gs.drop (i + run)).length = run := by omega
    rw [hfill, ← hgs]

theorem groups_length (bits : BitVec 128) : (Addr.groups bits).length = 8 := by
  rw [Addr.groups, List.length_map, List.length_range]

theorem groups_lt (bits : BitVec 128) : ∀ g ∈ Addr.groups bits, g < 65536 := by
  intro g hg
  obtain ⟨i, -, rfl⟩ := List.mem_map.mp hg
  exact Nat.mod_lt _ (by decide)

theorem groupsToBits_groups (bits : BitVec 128) : groupsToBits (Addr.groups bits) = bits := by
  have hlt := bits.isLt
  refine BitVec.eq_of_toNat_eq ?_
  rw [groupsToBits, BitVec.toNat_ofNat, Addr.groups]
  simp only [List.range, List.range.loop, List.map_cons, List.map_nil, List.foldl_cons, List.foldl_nil]
  omega

theorem ipv6Text_chars (gs : List Nat) : ∀ c ∈ (Addr.ipv6Text gs).toList, isGroupChar c = true := by
  rw [Addr.ipv6Text]
  split
  · exact groupTexts_chars gs
  · intro c hc
    rw [String.toList_append, String.toList_append, List.mem_append, List.mem_append] at hc
    rcases hc with (hc | hc) | hc
    · exact groupTexts_chars _ c hc
    · have hcolon : c = ':' := by simpa using hc
      rw [hcolon]
      decide
    · exact groupTexts_chars _ c hc

theorem colon_mem_ipv6Text (hlength : gs.length = 8) : ':' ∈ (Addr.ipv6Text gs).toList := by
  rw [Addr.ipv6Text]
  split
  · obtain ⟨a, b, rest, rfl⟩ : ∃ a b rest, gs = a :: b :: rest := by
      match gs, hlength with
      | a :: b :: rest, _ => exact ⟨a, b, rest, rfl⟩
    rw [toList_groupTexts, List.map_cons, List.map_cons, List.intercalate_cons_cons]
    simp
  · rw [String.toList_append, String.toList_append]
    simp

theorem parseAddr_v6 {bits : BitVec 128} (hmapped : Addr.isMapped bits = false) :
    parseAddr (Addr.v6 bits "").toText = some (.v6 bits "") := by
  have htext : (Addr.v6 bits "").toText = Addr.ipv6Text (Addr.groups bits) := by
    rw [Addr.toText, hmapped]
    rfl
  have hfirst : (Addr.ipv6Text (Addr.groups bits)).toList.find?
      (fun c => c = '.' || c = ':' || c = '%') = some ':' := by
    refine find?_eq_of_unique (colon_mem_ipv6Text (groups_length bits)) (by decide) fun c hc hspecial => ?_
    have hgroup := ipv6Text_chars _ c hc
    simp only [Bool.or_eq_true, decide_eq_true_eq] at hspecial
    rcases hspecial with (rfl | rfl) | rfl
    · exact absurd hgroup (by decide)
    · rfl
    · exact absurd hgroup (by decide)
  have hspan : (Addr.ipv6Text (Addr.groups bits)).toList.span (· ≠ '%') =
      ((Addr.ipv6Text (Addr.groups bits)).toList, []) := by
    have hzone : ∀ c ∈ (Addr.ipv6Text (Addr.groups bits)).toList, decide (c ≠ '%') = true := by
      intro c hc
      refine decide_eq_true fun he => ?_
      have hgroup := ipv6Text_chars _ c hc
      rw [he] at hgroup
      exact absurd hgroup (by decide)
    rw [List.span_eq_takeWhile_dropWhile, List.takeWhile_eq_self_iff.mpr hzone,
      List.dropWhile_eq_nil_iff.mpr hzone]
  rw [htext, parseAddr, hfirst]
  change parseIPv6 _ = _
  rw [parseIPv6, hspan]
  dsimp only
  rw [parseIPv6Groups_ipv6Text (groups_length bits) (groups_lt bits), Option.map_some, groupsToBits_groups]

/-! ## Lengths -/

theorem length_intercalate_le {α : Type} {x : α} {k : Nat} {ls : List (List α)} (h : ∀ l ∈ ls, l.length ≤ k) :
    ([x].intercalate ls).length ≤ ls.length * (k + 1) := by
  induction ls with
  | nil => exact Nat.zero_le _
  | cons l ls ih =>
    have hl := h l (.head _)
    have hls := ih fun m hm => h m (List.mem_cons_of_mem l hm)
    cases ls with
    | nil =>
      rw [List.intercalate_singleton, List.length_singleton]
      omega
    | cons l' ls =>
      rw [List.intercalate_cons_cons, List.length_append, List.length_append, List.length_singleton, List.length_cons,
        Nat.succ_mul]
      omega

theorem length_ipv4Text_le : (Addr.ipv4Text bits).toList.length ≤ 16 := by
  rw [toList_ipv4Text]
  refine length_intercalate_le (k := 3) fun l hl => ?_
  obtain ⟨n, hn, rfl⟩ := List.mem_map.mp hl
  exact (Nat.length_toDigits_le_iff (by decide) (by decide)).mpr (by have := octets_le bits n hn; omega)

theorem length_groupTexts_le (h : ∀ g ∈ gs, g < 65536) : (Addr.groupTexts gs).toList.length ≤ gs.length * 5 := by
  rw [toList_groupTexts]
  have hshort : ∀ l ∈ gs.map (Nat.toDigits 16), l.length ≤ 4 := by
    intro l hl
    obtain ⟨g, hg, rfl⟩ := List.mem_map.mp hl
    exact (Nat.length_toDigits_le_iff (by decide) (by decide)).mpr (h g hg)
  have hle := length_intercalate_le (x := ':') hshort
  rwa [List.length_map] at hle

theorem length_ipv6Text_le (hlength : gs.length = 8) (h : ∀ g ∈ gs, g < 65536) :
    (Addr.ipv6Text gs).toList.length ≤ 40 := by
  rw [Addr.ipv6Text]
  cases hcut : Addr.ellipsis gs with
  | none =>
    have hall := length_groupTexts_le h
    dsimp only
    omega
  | some p =>
    obtain ⟨i, run⟩ := p
    obtain ⟨hpos, -⟩ := ellipsis_zeros hcut
    have hlengths := length_around_ellipsis hcut
    have hleft : (Addr.groupTexts (gs.take i)).toList.length ≤ _ :=
      length_groupTexts_le fun g hg => h g (List.mem_of_mem_take hg)
    have hright : (Addr.groupTexts (gs.drop (i + run))).toList.length ≤ _ :=
      length_groupTexts_le fun g hg => h g (List.mem_of_mem_drop hg)
    rw [String.toList_append, String.toList_append, List.length_append, List.length_append]
    have htwo : "::".toList.length = 2 := rfl
    omega

/-! ## The characters of a text that is read -/

def isAddressChar (c : Char) : Bool := c = '.' || isGroupChar c

theorem isAddressChar_of_hexValue (h : (hexValue c).isSome = true) : isAddressChar c = true := by
  rw [isAddressChar, isGroupChar, h, Bool.or_true, Bool.or_true]

theorem isAddressChar_of_isDigit (h : Decimal.isDigit c = true) : isAddressChar c = true := by
  apply isAddressChar_of_hexValue
  rw [hexValue, if_pos h, Option.isSome_some]

theorem parseOctet_digits {n : Nat} (h : parseOctet cs = some n) : ∀ c ∈ cs, Decimal.isDigit c = true := by
  rw [parseOctet] at h
  split_ifs at h with hdigits
  exact List.all_eq_true.mp hdigits.2.1

theorem forall_mem_of_splitOn {p : Char → Prop} (sep : Char) (hsep : p sep)
    (h : ∀ l ∈ cs.splitOn sep, ∀ c ∈ l, p c) : ∀ c ∈ cs, p c := by
  intro c hc
  have hjoin : [sep].intercalate (cs.splitOn sep) = cs := List.intercalate_splitOn sep
  rw [← hjoin] at hc
  rcases mem_intercalate hc with rfl | ⟨l, hl, hc⟩
  · exact hsep
  · exact h l hl c hc

theorem parseIPv4_chars {bits : BitVec 32} (h : parseIPv4 cs = some bits) : ∀ c ∈ cs, isAddressChar c = true := by
  refine forall_mem_of_splitOn '.' (by decide) fun l hl c hc => ?_
  have hread : parseOctet l ∈ (cs.splitOn '.').map parseOctet := List.mem_map_of_mem hl
  rw [parseIPv4] at h
  split at h
  case h_2 => cases h
  case h_1 w x y z heq =>
    rw [heq] at hread
    have hsome : ∃ n, parseOctet l = some n := by
      simp only [List.mem_cons, List.not_mem_nil, or_false] at hread
      rcases hread with hread | hread | hread | hread <;> exact ⟨_, hread⟩
    obtain ⟨n, hn⟩ := hsome
    exact isAddressChar_of_isDigit (parseOctet_digits hn c hc)

theorem foldlM_hexValue_chars {acc n : Nat}
    (h : cs.foldlM (fun acc c => (hexValue c).map fun d => acc * 16 + d) acc = some n) :
    ∀ c ∈ cs, (hexValue c).isSome = true := by
  induction cs generalizing acc with
  | nil => exact fun c hc => by cases hc
  | cons c cs ih =>
    rw [List.foldlM_cons] at h
    obtain ⟨next, hnext, hrest⟩ := Option.bind_eq_some_iff.mp h
    obtain ⟨d, hd, -⟩ := Option.map_eq_some_iff.mp hnext
    refine List.forall_mem_cons.mpr ⟨?_, ih hrest⟩
    rw [hd, Option.isSome_some]

theorem parseGroup_chars {n : Nat} (h : parseGroup cs = some n) : ∀ c ∈ cs, isAddressChar c = true := by
  rw [parseGroup] at h
  split_ifs at h
  exact fun c hc => isAddressChar_of_hexValue (foldlM_hexValue_chars h c hc)

theorem parseGroups_chars {ipv4 : Bool} {ls : List (List Char)} (h : parseGroups ipv4 ls = some gs) :
    ∀ l ∈ ls, ∀ c ∈ l, isAddressChar c = true := by
  fun_induction parseGroups ipv4 ls generalizing gs with
  | case1 => exact fun l hl => by cases hl
  | case2 last hdot =>
    obtain ⟨bits, hbits, -⟩ := Option.map_eq_some_iff.mp h
    intro l hl
    rw [List.mem_singleton.mp hl]
    exact parseIPv4_chars hbits
  | case3 last hdot =>
    obtain ⟨group, hgroup, -⟩ := Option.map_eq_some_iff.mp h
    intro l hl
    rw [List.mem_singleton.mp hl]
    exact parseGroup_chars hgroup
  | case4 cs rest hrest ih =>
    obtain ⟨group, hgroup, htail⟩ := Option.bind_eq_some_iff.mp h
    obtain ⟨tail, htail, -⟩ := Option.map_eq_some_iff.mp htail
    exact List.forall_mem_cons.mpr ⟨parseGroup_chars hgroup, ih htail⟩

theorem parseSide_chars {ipv4 : Bool} (h : parseSide ipv4 cs = some gs) : ∀ c ∈ cs, isAddressChar c = true := by
  rw [parseSide] at h
  split_ifs at h with hempty
  · rw [hempty]
    exact fun c hc => by cases hc
  · exact forall_mem_of_splitOn ':' (by decide) (parseGroups_chars h)

theorem cutEllipsis_eq {cs left right : List Char} (h : cutEllipsis cs = some (left, right)) :
    cs = left ++ ':' :: ':' :: right := by
  fun_induction cutEllipsis cs generalizing left with
  | case1 rest =>
    cases h
    rfl
  | case2 c rest hfirst ih =>
    obtain ⟨p, hp, heq⟩ := Option.map_eq_some_iff.mp h
    cases heq
    rw [List.cons_append, ← ih hp]
  | case3 => cases h

theorem parseIPv6Groups_chars (h : parseIPv6Groups cs = some gs) : ∀ c ∈ cs, isAddressChar c = true := by
  rw [parseIPv6Groups] at h
  split at h
  case h_1 =>
    obtain ⟨groups, hgroups, -⟩ := Option.bind_eq_some_iff.mp h
    exact forall_mem_of_splitOn ':' (by decide) (parseGroups_chars hgroups)
  case h_2 left right hcut =>
    obtain ⟨ls, hleft, h⟩ := Option.bind_eq_some_iff.mp h
    obtain ⟨rs, hright, -⟩ := Option.bind_eq_some_iff.mp h
    rw [cutEllipsis_eq hcut]
    intro c hc
    simp only [List.mem_append, List.mem_cons] at hc
    rcases hc with hc | rfl | rfl | hc
    · exact parseSide_chars hleft c hc
    · decide
    · decide
    · exact parseSide_chars hright c hc

theorem parseAddr_chars {s : String} {addr : Addr} (h : parseAddr s = some addr) (hzone : addr.withoutZone = addr) :
    ∀ c ∈ s.toList, isAddressChar c = true := by
  rw [parseAddr] at h
  split at h
  · obtain ⟨bits, hbits, -⟩ := Option.map_eq_some_iff.mp h
    exact parseIPv4_chars hbits
  · rw [parseIPv6, List.span_eq_takeWhile_dropWhile] at h
    dsimp only at h
    split at h
    · rename_i hrest
      obtain ⟨gs, hgs, -⟩ := Option.map_eq_some_iff.mp h
      have hall := List.takeWhile_append_dropWhile (p := (· ≠ '%')) (l := s.toList)
      rw [hrest, List.append_nil] at hall
      rw [hall] at hgs
      exact parseIPv6Groups_chars hgs
    · cases h
    · rename_i mark zone hlong hrest
      -- a zone that is not empty is not dropped
      obtain ⟨gs, -, rfl⟩ := Option.map_eq_some_iff.mp h
      have hnil := congrArg String.toList (Addr.v6.inj hzone).2.symm
      rw [String.toList_ofList] at hnil
      exact (hlong hnil).elim
  · cases h

/-! ## Bytes -/

def Addr.asSlice : Addr → List UInt8
  | v4 bits => BigEndian.toBytes 4 bits.toNat
  | v6 bits _ => BigEndian.toBytes 16 bits.toNat

def addrFromSlice (bytes : List UInt8) : Option Addr :=
  if bytes.length = 4 then some (.v4 (BitVec.ofNat 32 (BigEndian.ofBytes bytes)))
  else if bytes.length = 16 then some (.v6 (BitVec.ofNat 128 (BigEndian.ofBytes bytes)) "")
  else none

theorem addrFromSlice_v4 : addrFromSlice (Addr.v4 bits).asSlice = some (.v4 bits) := by
  rw [Addr.asSlice, addrFromSlice, if_pos (BigEndian.length_toBytes 4 _),
    BigEndian.ofBytes_toBytes_of_lt bits.isLt, BitVec.ofNat_toNat, BitVec.setWidth_eq]

theorem addrFromSlice_v6 (bits : BitVec 128) (zone : String) :
    addrFromSlice (Addr.v6 bits zone).asSlice = some (.v6 bits "") := by
  have hlength := BigEndian.length_toBytes 16 bits.toNat
  rw [Addr.asSlice, addrFromSlice, if_neg (by omega), if_pos hlength, BigEndian.ofBytes_toBytes_of_lt bits.isLt,
    BitVec.ofNat_toNat, BitVec.setWidth_eq]

end NetIP
