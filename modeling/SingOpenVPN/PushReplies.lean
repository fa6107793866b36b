import SingOpenVPN.OptionLines

/-!
# Push replies in segments (`server_negotiation.go`, `pull_options.go`)

The server packs option fields greedily into control messages below a size limit and marks
each but the last with `push-continuation 2`; the client takes the messages apart at the
commas and collects the lines.

`current` of the splitter is always a command with its lines joined by commas (`message`), so
a message that is taken apart gives back the fields it was made of.
-/

namespace SingOpenVPN

open List

/-! ### The client -/

def trimNULs (payload : Bytes) : Text := (payload.dropWhile (· = 0)).rdropWhile (· = 0)

def normalizeControlPayload (payload : Bytes) : Text := trimSpace (trimNULs payload)

def pushReplyPayloadPrefix : Text := ascii "PUSH_REPLY"

def pushUpdatePayloadPrefix : Text := ascii "PUSH_UPDATE"

def splitPushReplyPayloadLines (payload : Bytes) : Option (Text × List Text) :=
  let payloadValue := normalizeControlPayload payload
  if payloadValue = [] then none
  else
    match payloadValue.splitOn 0x2C with
    | [] => none
    | first :: payloadLines =>
      let commandName := trimSpace first
      if equalFold commandName pushReplyPayloadPrefix ||
          equalFold commandName pushUpdatePayloadPrefix then some (commandName, payloadLines)
      else none

def lineContinuation (continuation : Nat) (optionLine : Text) : Nat :=
  match parsePushedOptionLine optionLine with
  | some (name :: value :: _) =>
    if equalFold name (ascii "push-continuation") then decodeContinuation continuation value
    else continuation
  | _ => continuation

/-- The lines collected so far with those of one more segment, and its continuation. -/
def appendPushReplyPayloadSegment (accumulatedLines : List Text) (payload : Bytes) :
    Option (List Text × Nat) :=
  match splitPushReplyPayloadLines payload with
  | none => none
  | some (commandName, payloadLines) =>
    let accumulatedLines := if accumulatedLines = [] then [commandName] else accumulatedLines
    some (accumulatedLines ++ payloadLines, payloadLines.foldl lineContinuation 0)

/-- The client reads one message after the other: all lines, and what each message reports. -/
def accumulatePushReply : List Text → List Bytes → Option (List Text × List Nat)
  | accumulatedLines, [] => some (accumulatedLines, [])
  | accumulatedLines, payload :: payloads =>
    match appendPushReplyPayloadSegment accumulatedLines payload with
    | none => none
    | some (accumulatedLines, continuation) =>
      (accumulatePushReply accumulatedLines payloads).map fun (lines, continuations) =>
        (lines, continuation :: continuations)

/-! ### The server -/

def serverPushBundleSize : Nat := 1024

def serverPushBundleOverhead : Nat := 84

def serverPushSafeCapacity : Nat := serverPushBundleSize - serverPushBundleOverhead

def splitFieldsLoop : List Text → Text → Bool → List Bytes → Except Text (List Bytes)
  | [], current, multiPush, payloads =>
    .ok (payloads ++ [if multiPush then current ++ ascii ",push-continuation 1" else current])
  | field :: fields, current, multiPush, payloads =>
    let addition := 0x2C :: field
    if serverPushSafeCapacity ≤ current.length + addition.length then
      if current = pushReplyPayloadPrefix then .error (ascii "push option is too long: " ++ field)
      else if serverPushSafeCapacity ≤ pushReplyPayloadPrefix.length + addition.length then
        .error (ascii "push option is too long: " ++ field)
      else
        splitFieldsLoop fields (pushReplyPayloadPrefix ++ addition) true
          (payloads ++ [current ++ ascii ",push-continuation 2"])
    else splitFieldsLoop fields (current ++ addition) multiPush payloads

def splitServerPushReplyFields : List Text → Except Text (List Bytes)
  | [] => .error (ascii "invalid OpenVPN push reply fields")
  | first :: fields =>
    if first = pushReplyPayloadPrefix then splitFieldsLoop fields pushReplyPayloadPrefix false []
    else .error (ascii "invalid OpenVPN push reply fields")

/-! ### One message -/

/-- A line that comes through as it is: not empty, without commas, NULs and white space around
    it. -/
structure CleanLine (line : Text) : Prop where
  nonempty : line ≠ []
  comma : 0x2C ∉ line
  nul : 0 ∉ line
  front : ∀ rune ∈ (runes line).head?, isSpace rune = false
  back : ∀ rune ∈ (runes line).getLast?, isSpace rune = false

def message (lines : List Text) : Text := joinText [0x2C] (pushReplyPayloadPrefix :: lines)

def continuationLine (continuation : Nat) : Text :=
  ascii "push-continuation " ++ [0x30 + continuation.toUInt8]

variable (lines : List Text)

theorem message_append (line : Text) :
    message (lines ++ [line]) = message lines ++ 0x2C :: line := by
  rw [message, message, ← cons_append,
    joinText_append _ (cons_ne_nil _ _) (cons_ne_nil _ _), joinText_singleton]
  rfl

theorem runes_message (line : Text) :
    runes (message (lines ++ [line])) = runes (message lines) ++ [0x2C] :: runes line := by
  rw [message_append, runes_append_ascii _ _ (by decide)]

theorem head?_runes_message :
    (runes (message lines)).head? = some (ascii "P") := by
  induction lines using List.reverseRecOn with
  | nil => decide +kernel
  | append_singleton lines line ih => rw [runes_message, List.head?_append, ih, Option.some_or]

variable {groups : List (List Text)} {lines : List Text}

theorem splitPushReplyPayloadLines_message (h : ∀ line ∈ lines, CleanLine line) :
    splitPushReplyPayloadLines (message lines) = some (pushReplyPayloadPrefix, lines) := by
  have hnul : ∀ byte ∈ message lines, byte ≠ 0 := by
    rintro _ hbyte rfl
    rcases mem_intercalate hbyte with hcomma | ⟨text, htext, hmem⟩
    · exact absurd hcomma (by decide)
    · rcases mem_cons.mp htext with rfl | hline
      · exact absurd hmem (by decide +kernel)
      · exact (h text hline).nul hmem
  have htrimmed : trimNULs (message lines) = message lines := by
    have hfront : (message lines).dropWhile (· = 0) = message lines := by
      refine dropWhile_eq_self_iff.mpr fun hlt => ?_
      simpa using hnul _ (getElem_mem hlt)
    rw [trimNULs, hfront, rdropWhile_eq_self_iff]
    intro hne
    simpa using hnul _ (getLast_mem hne)
  have hnormal : normalizeControlPayload (message lines) = message lines := by
    rw [normalizeControlPayload, htrimmed]
    refine trimSpace_eq_self ?_ ?_
    · rw [head?_runes_message]
      decide +kernel
    · rcases eq_nil_or_concat lines with rfl | ⟨front, line, rfl⟩
      · decide +kernel
      · have hline := h line (by simp)
        rw [concat_eq_append, runes_message, List.getLast?_append,
          List.getLast?_cons_of_ne_nil (runes_ne_nil hline.nonempty),
          List.getLast?_eq_some_getLast (runes_ne_nil hline.nonempty), Option.some_or,
          ← List.getLast?_eq_some_getLast]
        exact hline.back
  have hsplit : (message lines).splitOn 0x2C = pushReplyPayloadPrefix :: lines := by
    refine splitOn_intercalate 0x2C (fun text htext => ?_) (cons_ne_nil _ _)
    rcases mem_cons.mp htext with rfl | hline
    · decide +kernel
    · exact (h text hline).comma
  have hnonempty : message lines ≠ [] := by
    intro hnil
    have hhead := head?_runes_message lines
    rw [hnil] at hhead
    cases hhead
  rw [splitPushReplyPayloadLines, hnormal]
  rw [if_neg hnonempty, hsplit]
  rfl

theorem cleanLine_continuationLine : ∀ continuation ∈ [1, 2],
    CleanLine (continuationLine continuation) ∧
      lineContinuation 0 (continuationLine continuation) = continuation := by
  intro continuation hmem
  simp only [mem_cons, not_mem_nil, or_false] at hmem
  rcases hmem with rfl | rfl
  · exact ⟨⟨by decide, by decide, by decide, by decide +kernel, by decide +kernel⟩,
      by decide +kernel⟩
  · exact ⟨⟨by decide, by decide, by decide, by decide +kernel, by decide +kernel⟩,
      by decide +kernel⟩

/-! ### Many messages -/

/-- The lines of each message: every one but the last is marked. -/
def markedLines : Bool → List (List Text) → List (List Text)
  | _, [] => []
  | multiPush, [group] => [if multiPush then group ++ [continuationLine 1] else group]
  | _, group :: next :: groups =>
    (group ++ [continuationLine 2]) :: markedLines true (next :: groups)

/-- A field an option may be made of; the client does not take it for a continuation. -/
structure CleanField (field : Text) : Prop extends CleanLine field where
  continuation : ∀ continuation, lineContinuation continuation field = continuation

/-- A field does not fit into a message of its own. -/
def TooLong (field : Text) : Prop :=
  serverPushSafeCapacity ≤ pushReplyPayloadPrefix.length + (field.length + 1)

theorem splitFieldsLoop_ok {fields group : List Text} (hfits : ∀ field ∈ fields, ¬ TooLong field)
    (hsize : (message group).length < serverPushSafeCapacity) (multiPush : Bool)
    (payloads : List Bytes) :
    ∃ groups : List (List Text), groups.flatten = group ++ fields ∧ groups ≠ [] ∧
      (∀ group ∈ groups, (message group).length < serverPushSafeCapacity) ∧
      splitFieldsLoop fields (message group) multiPush payloads =
        .ok (payloads ++ (markedLines multiPush groups).map message) := by
  induction fields generalizing group multiPush payloads with
  | nil =>
    refine ⟨[group], by simp, by simp, by simpa using hsize, ?_⟩
    rw [splitFieldsLoop, markedLines]
    cases multiPush with
    | false => rfl
    | true => simp only [if_true, map_cons, map_nil, message_append]; rfl
  | cons field fields ih =>
    have hfield := hfits field mem_cons_self
    have hothers := fun other hother => hfits other (mem_cons_of_mem field hother)
    rw [TooLong, not_le] at hfield
    rw [splitFieldsLoop, length_cons]
    split
    · next hfull =>
      have hmore : message group ≠ pushReplyPayloadPrefix := by
        intro heq
        rw [heq] at hfull
        exact absurd hfull (Nat.not_le.mpr hfield)
      rw [if_neg hmore, if_neg (Nat.not_le.mpr hfield)]
      have hsingle : pushReplyPayloadPrefix ++ 0x2C :: field = message [field] :=
        (message_append [] field).symm
      obtain ⟨groups, hflatten, hne, hsizes, hloop⟩ := @ih [field] hothers
        (by rw [← hsingle, length_append, length_cons]; exact hfield) true
        (payloads ++ [message group ++ ascii ",push-continuation 2"])
      obtain ⟨next, groups, rfl⟩ := exists_cons_of_ne_nil hne
      refine ⟨group :: next :: groups, by simpa using hflatten, by simp, ?_, ?_⟩
      · exact forall_mem_cons.mpr ⟨hsize, hsizes⟩
      · rw [hsingle, hloop, markedLines, map_cons, message_append, append_assoc]
        rfl
    · next hroom =>
      rw [← message_append]
      obtain ⟨groups, hflatten, hrest⟩ := @ih (group ++ [field]) hothers
        (by rw [message_append, length_append, length_cons]; omega) multiPush payloads
      exact ⟨groups, by simpa using hflatten, hrest⟩

theorem splitFieldsLoop_error {fields : List Text} {current : Text}
    (hcurrent : pushReplyPayloadPrefix.length ≤ current.length) {field : Text}
    (hfield : field ∈ fields) (hlong : TooLong field) (multiPush : Bool) (payloads : List Bytes) :
    ∃ err, splitFieldsLoop fields current multiPush payloads = .error err := by
  induction fields generalizing current multiPush payloads with
  | nil => cases hfield
  | cons first fields ih =>
    rw [splitFieldsLoop]
    rcases mem_cons.mp hfield with rfl | hrest
    · rw [TooLong] at hlong
      rw [length_cons, if_pos (by omega), if_pos hlong]
      split
      · exact ⟨_, rfl⟩
      · exact ⟨_, rfl⟩
    · split_ifs
      · exact ⟨_, rfl⟩
      · exact ⟨_, rfl⟩
      · exact ih (by simp) hrest true _
      · exact ih (by rw [length_append]; omega) hrest multiPush _

theorem accumulatePushReply_messages (h : ∀ group ∈ groups, ∀ line ∈ group, CleanLine line)
    {accumulated : List Text} (hne : accumulated ≠ [] ∨ groups ≠ []) :
    accumulatePushReply accumulated (groups.map message) =
      some ((if accumulated = [] then [pushReplyPayloadPrefix] else accumulated) ++ groups.flatten,
        groups.map fun group => group.foldl lineContinuation 0) := by
  induction groups generalizing accumulated with
  | nil => simp [accumulatePushReply, hne.resolve_right (by simp)]
  | cons group groups ih =>
    have hgroup := splitPushReplyPayloadLines_message (h group mem_cons_self)
    have hstarted : (if accumulated = [] then [pushReplyPayloadPrefix] else accumulated) ++ group ≠
        [] := by
      split <;> simp [*]
    rw [map_cons, accumulatePushReply, appendPushReplyPayloadSegment, hgroup]
    dsimp only
    rw [ih (fun other hother => h other (mem_cons_of_mem group hother)) (.inl hstarted),
      if_neg hstarted]
    simp

/-- No field reports a continuation, so none is one of the added lines. -/
theorem unmarked_group {group : List Text} (h : ∀ field ∈ group, CleanField field) :
    group.foldl lineContinuation 0 = 0 ∧
      (group.filter fun line => line ≠ continuationLine 1 ∧ line ≠ continuationLine 2) = group := by
  constructor
  · induction group with
    | nil => rfl
    | cons field group ih =>
      rw [foldl_cons, (h field mem_cons_self).continuation]
      exact ih fun other hother => h other (mem_cons_of_mem field hother)
  · refine filter_eq_self.mpr fun field hfield => ?_
    have hne : ∀ continuation ∈ [1, 2], field ≠ continuationLine continuation := by
      rintro continuation hmem rfl
      have hnone := (h _ hfield).continuation 0
      rw [(cleanLine_continuationLine continuation hmem).2] at hnone
      exact absurd (hnone ▸ hmem) (by decide)
    exact decide_eq_true ⟨hne 1 (by simp), hne 2 (by simp)⟩

theorem marked_group {group : List Text} (h : ∀ field ∈ group, CleanField field)
    {continuation : Nat}
    (hmem : continuation ∈ [1, 2]) :
    (∀ line ∈ group ++ [continuationLine continuation], CleanLine line) ∧
      (group ++ [continuationLine continuation]).foldl lineContinuation 0 = continuation ∧
      ((group ++ [continuationLine continuation]).filter fun line =>
        line ≠ continuationLine 1 ∧ line ≠ continuationLine 2) = group := by
  obtain ⟨hclean, hreport⟩ := cleanLine_continuationLine continuation hmem
  obtain ⟨hfold, hfilter⟩ := unmarked_group h
  rw [foldl_append, hfold, filter_append, hfilter]
  refine ⟨?_, hreport, ?_⟩
  · simp only [mem_append, mem_singleton]
    rintro line (hline | rfl)
    · exact (h line hline).toCleanLine
    · exact hclean
  · simp only [mem_cons, not_mem_nil, or_false] at hmem
    rcases hmem with rfl | rfl
    · simp
    · simp

theorem markedLines_spec (hne : groups ≠ [])
    (h : ∀ group ∈ groups, ∀ field ∈ group, CleanField field) (multiPush : Bool) :
    (∀ lines ∈ markedLines multiPush groups, ∀ line ∈ lines, CleanLine line) ∧
      (markedLines multiPush groups).map (fun lines => lines.foldl lineContinuation 0) =
        List.replicate (groups.length - 1) 2 ++ [if multiPush ∨ 1 < groups.length then 1 else 0] ∧
      ((markedLines multiPush groups).flatten.filter fun line =>
        line ≠ continuationLine 1 ∧ line ≠ continuationLine 2) = groups.flatten := by
  induction groups generalizing multiPush with
  | nil => exact absurd rfl hne
  | cons group groups ih =>
    have hgroup := h group mem_cons_self
    cases groups with
    | nil =>
      rw [markedLines, flatten_singleton, flatten_singleton]
      cases multiPush with
      | false =>
        obtain ⟨hreport, hfields⟩ := unmarked_group hgroup
        have hlines := fun field hfield => (hgroup field hfield).toCleanLine
        exact ⟨by simpa using hlines, by simp [hreport], hfields⟩
      | true =>
        obtain ⟨hlines, hreport, hfields⟩ := marked_group hgroup (show 1 ∈ [1, 2] by simp)
        exact ⟨by simpa using hlines, congrArg (fun report => [report]) hreport, hfields⟩
    | cons next groups =>
      obtain ⟨hlines, hreport, hfields⟩ := marked_group hgroup (show 2 ∈ [1, 2] by simp)
      obtain ⟨hrest, hreports, hothers⟩ := ih (cons_ne_nil _ _)
        (fun other hother => h other (mem_cons_of_mem group hother)) true
      rw [markedLines, map_cons, hreport, hreports, flatten_cons, filter_append,
        hfields, hothers]
      exact ⟨forall_mem_cons.mpr ⟨hlines, hrest⟩, by simp [replicate_succ], rfl⟩

theorem length_markedLines (multiPush : Bool) (groups : List (List Text)) :
    (markedLines multiPush groups).length = groups.length := by
  fun_induction markedLines multiPush groups with
  | case1 => rfl
  | case2 => rfl
  | case3 _ group next groups ih => exact congrArg Nat.succ ih

theorem length_message_marked {multiPush : Bool}
    (h : ∀ group ∈ groups, (message group).length < serverPushSafeCapacity)
    (hlines : lines ∈ markedLines multiPush groups) :
    (message lines).length < serverPushBundleSize := by
  have hsum : ∀ group : List Text, ∀ continuation, (message group).length < serverPushSafeCapacity →
      (message (group ++ [continuationLine continuation])).length < serverPushBundleSize := by
    intro group continuation hgroup
    rw [message_append, length_append, length_cons, continuationLine, length_append,
      show (ascii "push-continuation ").length = 18 from by decide, length_singleton]
    rw [serverPushSafeCapacity, serverPushBundleOverhead] at hgroup
    omega
  fun_induction markedLines multiPush groups with
  | case1 => cases hlines
  | case2 multiPush group =>
    have hgroup := h group mem_cons_self
    rw [mem_singleton] at hlines
    subst hlines
    split
    · exact hsum group 1 hgroup
    · exact hgroup.trans (by decide)
  | case3 _ group next groups ih =>
    rcases mem_cons.mp hlines with rfl | hrest
    · exact hsum group 2 (h group mem_cons_self)
    · exact ih (fun other hother => h other (mem_cons_of_mem group hother)) hrest

/-- Splitting the fields of a push reply fails exactly if one of them does not fit into a message
of its own.  Otherwise every message is shorter than the bundle size, all but the last report
that more follow, the last one that it is the last, and the client collects the fields in order,
apart from the added lines. -/
theorem push_reply_split {fields : List Text} (hclean : ∀ field ∈ fields, CleanField field) :
    ((∃ err, splitServerPushReplyFields (pushReplyPayloadPrefix :: fields) = .error err) ↔
        ∃ field ∈ fields, TooLong field) ∧
      ∀ payloads, splitServerPushReplyFields (pushReplyPayloadPrefix :: fields) = .ok payloads →
        (∀ payload ∈ payloads, payload.length < serverPushBundleSize) ∧
        ∃ lines, accumulatePushReply [] payloads = some (pushReplyPayloadPrefix :: lines,
            List.replicate (payloads.length - 1) 2 ++ [if payloads.length = 1 then 0 else 1]) ∧
          (lines.filter fun line => line ≠ continuationLine 1 ∧ line ≠ continuationLine 2) =
            fields := by
  rw [splitServerPushReplyFields, if_pos rfl]
  by_cases hlong : ∃ field ∈ fields, TooLong field
  · obtain ⟨field, hfield, htooLong⟩ := id hlong
    obtain ⟨err, herr⟩ := splitFieldsLoop_error (le_refl _) hfield htooLong false []
    rw [herr]
    exact ⟨iff_of_true ⟨err, rfl⟩ hlong, fun payloads h => by cases h⟩
  · have hfits : ∀ field ∈ fields, ¬ TooLong field := fun field hfield htooLong =>
      hlong ⟨field, hfield, htooLong⟩
    obtain ⟨groups, hflatten, hne, hsizes, hloop⟩ :=
      @splitFieldsLoop_ok fields [] hfits (by decide +kernel) false []
    rw [nil_append] at hflatten hloop
    have hmembers : ∀ group ∈ groups, ∀ field ∈ group, CleanField field := by
      intro group hgroup field hfield
      exact hclean field (hflatten ▸ mem_flatten.mpr ⟨group, hgroup, hfield⟩)
    obtain ⟨hlines, hreports, hfields⟩ := markedLines_spec hne hmembers false
    rw [show message [] = pushReplyPayloadPrefix from joinText_singleton _ _] at hloop
    rw [hloop]
    refine ⟨iff_of_false (by simp) hlong, fun payloads hpayloads => ?_⟩
    obtain rfl := Except.ok.inj hpayloads
    refine ⟨?_, (markedLines false groups).flatten, ?_, hfields.trans hflatten⟩
    · intro payload hpayload
      obtain ⟨lines, hmem, rfl⟩ := mem_map.mp hpayload
      exact length_message_marked hsizes hmem
    · have hmarked : markedLines false groups ≠ [] := by
        rwa [← length_pos_iff, length_markedLines, length_pos_iff]
      rw [accumulatePushReply_messages hlines (.inr hmarked), if_pos rfl, hreports,
        length_map, length_markedLines]
      have hpositive : 0 < groups.length := length_pos_of_ne_nil hne
      by_cases hone : groups.length = 1
      · simp [hone]
      · simp [hone, show 1 < groups.length by omega]

/-- Sixty fields of fifteen bytes fill one message and begin a second. -/
theorem push_reply_split_full :
    ∃ payloads lines, splitServerPushReplyFields
          (pushReplyPayloadPrefix :: replicate 60 (ascii "topology subnet")) = .ok payloads ∧
      payloads.map length = [958, 62] ∧
      accumulatePushReply [] payloads = some (pushReplyPayloadPrefix :: lines, [2, 1]) ∧
      (lines.filter fun line => line ≠ continuationLine 1 ∧ line ≠ continuationLine 2) =
        replicate 60 (ascii "topology subnet") := by
  have hclean : CleanField (ascii "topology subnet") := by
    refine ⟨⟨by decide, by decide, by decide, by decide +kernel, by decide +kernel⟩, ?_⟩
    intro other
    rw [lineContinuation, show parsePushedOptionLine (ascii "topology subnet") =
      some [ascii "topology", ascii "subnet"] by decide +kernel]
    exact if_neg (by decide +kernel)
  have hfilled : splitServerPushReplyFields
      (pushReplyPayloadPrefix :: replicate 60 (ascii "topology subnet")) =
        .ok [message (replicate 58 (ascii "topology subnet") ++ [continuationLine 2]),
          message (replicate 2 (ascii "topology subnet") ++ [continuationLine 1])] := by
    decide +kernel
  obtain ⟨-, hsplit⟩ := @push_reply_split (replicate 60 (ascii "topology subnet"))
    (fun field hfield => eq_of_mem_replicate hfield ▸ hclean)
  obtain ⟨-, lines, hlines, hfields⟩ := hsplit _ hfilled
  exact ⟨_, lines, hfilled, by decide +kernel, hlines, hfields⟩

end SingOpenVPN
