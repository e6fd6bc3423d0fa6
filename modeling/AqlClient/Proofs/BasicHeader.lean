import AqlClient.Credentials
import AqlClient.Proofs.Base64
import Mathlib.Data.List.Nodup

/-!
# What a basic header tells

The header that carries a name and a password is a text with a colon between them, as bytes, as
base64. All of this can be undone up to the text (`Credentials.sameAs_basic_iff`), in which the first
colon counts: so a name must have none itself. A password may have some, and either of them may be
empty.

So the header of a plain pair (`Credentials.Plain`) is read back as this pair
(`Credentials.pair?_basicToken`), and whether two such credentials are the same is whether the pairs
are (`Credentials.sameAs_ofPair_iff`). Sets of credentials rest on this and on hashes of the headers,
which may be any: a set finds a plain pair exactly if it was put into it
(`Credentials.foundIn_ofPair_iff`), and keeps it once (`Credentials.distinct_ofPair`).
-/

namespace AqlClient

/-! ### Texts around a colon -/

/-- What stands before and behind the first colon of a text. -/
def aroundColon? (text : String) : Option (String × String) :=
  match text.toList.dropWhile (· != ':') with
  | [] => none
  | _ :: behind =>
    some (String.ofList (text.toList.takeWhile (· != ':')), String.ofList behind)

/-- A text without a colon is told from what follows it behind a colon, whatever that is. -/
theorem aroundColon?_append {name : String} (h : ':' ∉ name.toList) (rest : String) :
    aroundColon? (name ++ ":" ++ rest) = some (name, rest) := by
  have hplain : ∀ c ∈ name.toList, (c != ':') = true := by
    intro c hc
    refine bne_iff_ne.2 ?_
    rintro rfl
    exact h hc
  have hchars : (name ++ ":" ++ rest).toList = name.toList ++ ':' :: rest.toList := by
    rw [String.toList_append, String.toList_append, List.append_assoc]
    rfl
  unfold aroundColon?
  rw [hchars, List.dropWhile_append_of_pos hplain, List.takeWhile_append_of_pos hplain,
    List.dropWhile_cons_of_neg (by decide), List.takeWhile_cons_of_neg (by decide),
    List.append_nil]
  simp only [String.ofList_toList]

namespace Credentials

/-! ### The header of a name and a password -/

theorem header_basic (username password : Value) :
    (basic username password).header =
      some ("Basic " ++ basicToken username.display password.display) := rfl

/-- **A header tells the text that stands in it:** the name and the password with a colon between
them. Names and passwords that make the same text count as the same. -/
theorem sameAs_basic_iff {username password username' password' : Value} :
    (basic username password).sameAs (basic username' password') = true ↔
      username.display ++ ":" ++ password.display =
        username'.display ++ ":" ++ password'.display := by
  have hheaders : (basic username password).sameAs (basic username' password') = true ↔
      (basic username password).header = (basic username' password').header := by
    simp only [sameAs, kind, beq_self_eq_true, Bool.true_and, beq_iff_eq]
  rw [hheaders, header_basic, header_basic, Option.some.injEq, String.append_right_inj]
  constructor
  · intro h
    have htexts := congrArg Utf8.decode? (Base64.encode_injective h)
    rw [Utf8.decode?_encode, Utf8.decode?_encode] at htexts
    exact Option.some.inj htexts
  · intro h
    exact congrArg (fun text => Base64.encode (Utf8.encode text)) h

/-- The credentials of a name and a password, both of them texts. -/
def ofPair (pair : String × String) : Credentials := .basic (.str pair.1) (.str pair.2)

-- a colon in the name cannot be told from the one between the name and the password
example : (ofPair ("a:b", "c")).sameAs (ofPair ("a", "b:c")) = true := by decide +kernel

/-- **A plain pair:** a name without a colon, and any password. -/
def Plain (pair : String × String) : Prop := ':' ∉ pair.1.toList

/-- The name and the password that stand in a header behind its scheme. -/
def pair? (token : String) : Option (String × String) :=
  ((Base64.decode? token).bind Utf8.decode?).bind aroundColon?

variable {pair other : String × String} {pairs : List (String × String)}

/-- **The header of a plain pair is read back.** -/
theorem pair?_basicToken (h : Plain pair) : pair? (basicToken pair.1 pair.2) = some pair := by
  have hbytes : Base64.decode? (basicToken pair.1 pair.2) =
      some (Utf8.encode (pair.1 ++ ":" ++ pair.2)) := Base64.decode?_eq_some_iff.2 rfl
  rw [pair?, hbytes, Option.bind_some, Utf8.decode?_encode, Option.bind_some,
    aroundColon?_append h]

/-- **Plain pairs count as the same if they are.** -/
theorem sameAs_ofPair_iff (h : Plain pair) (hother : Plain other) :
    (ofPair pair).sameAs (ofPair other) = true ↔ pair = other := by
  refine sameAs_basic_iff.trans ⟨fun htexts => ?_, fun hpairs => by rw [hpairs]⟩
  have haround : some pair = some other := by
    calc some pair = aroundColon? (pair.1 ++ ":" ++ pair.2) := (aroundColon?_append h _).symm
      _ = aroundColon? (other.1 ++ ":" ++ other.2) := congrArg aroundColon? htexts
      _ = some other := aroundColon?_append hother _
  exact Option.some.inj haround

/-! ### Sets -/

/-- How texts and pairs of values are hashed. -/
structure Hashing where
  text : Option String → Int
  pair : Value → Value → Int

/-- The hash of credentials: of a login that of its name and its password, and else that of the
header. -/
def hash (hashing : Hashing) : Credentials → Int
  | .login username password => hashing.pair username password
  | c => hashing.text c.header

/-- Whether credentials are found among the members of a set: only those of the same hash are looked
at, and one of them has to be the same. -/
def foundIn (hashing : Hashing) (members : List Credentials) (c : Credentials) : Bool :=
  members.any fun member => member.hash hashing == c.hash hashing && member.sameAs c

variable (hashing : Hashing)

/-- **A plain pair is found exactly where it is,** among plain pairs. -/
theorem foundIn_ofPair_iff (h : Plain pair) (hpairs : ∀ other ∈ pairs, Plain other) :
    foundIn hashing (pairs.map ofPair) (ofPair pair) = true ↔ pair ∈ pairs := by
  unfold foundIn
  simp only [List.any_map, List.any_eq_true, Function.comp_apply, Bool.and_eq_true, beq_iff_eq]
  constructor
  · rintro ⟨other, hmem, -, hsame⟩
    obtain rfl := (sameAs_ofPair_iff (hpairs other hmem) h).1 hsame
    exact hmem
  · intro hmem
    exact ⟨pair, hmem, rfl, (sameAs_ofPair_iff h h).2 rfl⟩

/-- **Sets tell plain pairs apart:** all sets agree on two of them only if these are the same. -/
theorem foundIn_eq_iff (h : Plain pair) (hother : Plain other) :
    (∀ members, foundIn hashing members (ofPair pair) = foundIn hashing members (ofPair other)) ↔
      pair = other := by
  constructor
  · -- the set that holds the first pair alone tells the other one from it
    intro hsets
    have hself : ∀ p ∈ [pair], Plain p := List.forall_mem_singleton.2 h
    have hfound : foundIn hashing ([pair].map ofPair) (ofPair other) = true :=
      (hsets _).symm.trans ((foundIn_ofPair_iff hashing h hself).2 (List.mem_singleton_self _))
    have hmem := (foundIn_ofPair_iff hashing hother hself).1 hfound
    exact (List.mem_singleton.1 hmem).symm
  · rintro rfl members
    rfl

/-- **A set keeps each plain pair once.** -/
theorem distinct_ofPair (hpairs : ∀ other ∈ pairs, Plain other) :
    ∃ kept : List (String × String), kept.Nodup ∧ (∀ pair, pair ∈ kept ↔ pair ∈ pairs) ∧
      distinct (pairs.map ofPair) = kept.map ofPair := by
  induction pairs with
  | nil => exact ⟨[], List.nodup_nil, fun _ => Iff.rfl, rfl⟩
  | cons pair pairs ih =>
    obtain ⟨hpair, hpairs⟩ := List.forall_mem_cons.1 hpairs
    obtain ⟨kept, hnodup, hmem, hdistinct⟩ := ih hpairs
    refine ⟨pair :: kept.filter (· ≠ pair), ?_, ?_, ?_⟩
    · simp [hnodup.filter]
    · intro other
      simp only [List.mem_cons, List.mem_filter, hmem, decide_eq_true_eq]
      by_cases h : other = pair <;> simp [h]
    · -- what counts as the same as the first pair is the first pair
      rw [List.map_cons, distinct, hdistinct, List.filter_map, List.map_cons]
      congr 2
      refine List.filter_congr fun other hother => ?_
      have hsame := sameAs_ofPair_iff hpair (hpairs other ((hmem other).1 hother))
      by_cases h : other = pair
      · simp [h, sameAs_ofPair_iff hpair hpair]
      · simpa [h] using fun h' => h (hsame.1 h').symm

/-- **The header of a name without a colon and a password tells both of them.** Behind its scheme it
is padded base64, and is read back as the name and the password. So such credentials are the same
exactly if the names and the passwords are, whether they are compared with each other or looked up in
sets; and a set that is made of some of them keeps each of them once and finds no others. -/
theorem basic_header_tells (hashing : Hashing) {pair : String × String} (h : Plain pair) :
    (∃ token, (ofPair pair).header = some ("Basic " ++ token) ∧ Base64.Padded token ∧
      pair? token = some pair) ∧
    (∀ other, Plain other →
      ((ofPair pair).sameAs (ofPair other) = true ↔ pair = other) ∧
      ((∀ members, foundIn hashing members (ofPair pair) =
        foundIn hashing members (ofPair other)) ↔ pair = other)) ∧
    ∀ pairs : List (String × String), (∀ other ∈ pairs, Plain other) →
      (∃ kept : List (String × String), kept.Nodup ∧ (∀ other, other ∈ kept ↔ other ∈ pairs) ∧
        distinct (pairs.map ofPair) = kept.map ofPair) ∧
      (foundIn hashing (distinct (pairs.map ofPair)) (ofPair pair) = true ↔ pair ∈ pairs) := by
  refine ⟨?_, ?_, ?_⟩
  · exact ⟨basicToken pair.1 pair.2, header_basic _ _, Base64.padded_encode _, pair?_basicToken h⟩
  · intro other hother
    exact ⟨sameAs_ofPair_iff h hother, foundIn_eq_iff hashing h hother⟩
  · intro pairs hpairs
    obtain ⟨kept, hnodup, hmem, hdistinct⟩ := distinct_ofPair hpairs
    have hkept : ∀ other ∈ kept, Plain other := by
      intro other hother
      exact hpairs other ((hmem other).1 hother)
    refine ⟨⟨kept, hnodup, hmem, hdistinct⟩, ?_⟩
    rw [hdistinct, foundIn_ofPair_iff hashing h hkept, hmem]

/-- A password with a colon and with characters of two bytes and of four, beside an empty one. -/
theorem basic_header_tells_specimen :
    let hashing : Hashing := ⟨fun _ => 0, fun _ _ => 0⟩
    let pair := ("root", "pä:ss😀")
    let other := ("root", "")
    Plain pair ∧ Plain other ∧
      (∃ token, (ofPair pair).header = some ("Basic " ++ token) ∧ Base64.Padded token ∧
        pair? token = some pair) ∧
      (ofPair pair).sameAs (ofPair other) = false ∧
      foundIn hashing (distinct ([other, pair, other].map ofPair)) (ofPair pair) = true ∧
      foundIn hashing (distinct ([other, other].map ofPair)) (ofPair pair) = false := by
  intro hashing pair other
  have h : Plain pair := by
    unfold Plain
    decide +kernel
  have hother : Plain other := by
    unfold Plain
    decide +kernel
  have hne : pair ≠ other := by decide +kernel
  obtain ⟨hread, hapart, hset⟩ := basic_header_tells hashing h
  refine ⟨h, hother, hread, ?_, ?_, ?_⟩
  · exact Bool.eq_false_iff.2 fun hsame => hne ((hapart other hother).1.1 hsame)
  · exact (hset [other, pair, other] (by simp [h, hother])).2.2 (by simp)
  · refine Bool.eq_false_iff.2 fun hfound => ?_
    exact absurd ((hset [other, other] (by simp [hother])).2.1 hfound) (by simp [hne])

end Credentials

end AqlClient
