import Mathlib.Data.List.Basic

namespace Vokusz.Migrate

abbrev Schema := List (String × List String)

def Schema.columns (schema : Schema) (table : String) : Option (List String) :=
  schema.lookup table

inductive Ddl where
  | createTable (table : String) (columns : List String)
  | createTableIfNotExists (table : String) (columns : List String)
  | addColumns (table : String) (columns : List String)
  | renameTable (table name : String)
  | dropTable (table : String)
  deriving DecidableEq, Repr

def Ddl.apply (schema : Schema) : Ddl → Option Schema
  | .createTable table columns =>
    if (schema.columns table).isSome then none else some (schema ++ [(table, columns)])
  | .createTableIfNotExists table columns =>
    if (schema.columns table).isSome then some schema else some (schema ++ [(table, columns)])
  | .addColumns table columns =>
    match schema.columns table with
    | none => none
    | some old =>
      if columns.any old.contains then none
      else some (schema.map (fun entry =>
        if entry.1 = table then (table, entry.2 ++ columns) else entry))
  | .renameTable table name =>
    if (schema.columns table).isNone || (schema.columns name).isSome then none
    else some (schema.map (fun entry => if entry.1 = table then (name, entry.2) else entry))
  | .dropTable table => some (schema.filter (fun entry => entry.1 ≠ table))

def runMigrations (steps : List Ddl) : Option Schema := steps.foldlM Ddl.apply []

def migrations : List Ddl := [
  .createTableIfNotExists "users" ["id", "username", "display_name", "created_at", "updated_at"],
  .createTableIfNotExists "channels" ["id", "name", "description", "created_at", "updated_at"],
  .createTableIfNotExists "messages" ["id", "channel_id", "author_id", "content", "created_at",
    "updated_at"],
  .createTableIfNotExists "sfu_nodes" ["id", "endpoint", "region", "capacity", "current_load",
    "status", "last_heartbeat", "created_at", "updated_at"],
  .createTableIfNotExists "spaces" ["id", "name", "description", "icon", "banner", "splash",
    "owner_id", "verification_level", "default_notifications", "explicit_content_filter",
    "vanity_url_code", "preferred_locale", "afk_channel_id", "afk_timeout", "system_channel_id",
    "rules_channel_id", "nsfw_level", "premium_tier", "premium_subscription_count", "max_members",
    "created_at", "updated_at"],
  .createTableIfNotExists "roles" ["id", "space_id", "name", "color", "hoist", "icon", "position",
    "permissions", "managed", "mentionable", "created_at", "updated_at"],
  .createTableIfNotExists "members" ["user_id", "space_id", "nickname", "avatar", "joined_at",
    "premium_since", "deaf", "mute", "pending", "timed_out_until"],
  .createTableIfNotExists "member_roles" ["user_id", "space_id", "role_id"],
  .addColumns "users" ["avatar", "banner", "accent_color", "bio", "bot", "system", "flags",
    "public_flags"],
  .addColumns "channels" ["type", "space_id", "topic", "position", "parent_id", "nsfw",
    "rate_limit", "bitrate", "user_limit", "owner_id", "last_message_id", "archived",
    "auto_archive_after"],
  .createTableIfNotExists "permission_overwrites" ["id", "channel_id", "type", "allow", "deny"],
  .addColumns "messages" ["space_id", "type", "tts", "pinned", "mention_everyone", "mentions",
    "mention_roles", "embeds", "reply_to", "flags", "webhook_id", "edited_at"],
  .createTableIfNotExists "attachments" ["id", "message_id", "filename", "description",
    "content_type", "size", "url", "width", "height"],
  .createTableIfNotExists "reactions" ["message_id", "user_id", "emoji_id", "emoji_name",
    "created_at"],
  .createTableIfNotExists "bans" ["user_id", "space_id", "reason", "banned_by", "created_at"],
  .createTableIfNotExists "invites" ["code", "space_id", "channel_id", "inviter_id", "max_uses",
    "uses", "max_age", "temporary", "created_at", "expires_at"],
  .createTableIfNotExists "emojis" ["id", "space_id", "name", "animated", "managed", "available",
    "require_colons", "creator_id", "created_at", "updated_at"],
  .createTableIfNotExists "emoji_roles" ["emoji_id", "role_id"],
  .createTableIfNotExists "applications" ["id", "name", "icon", "description", "bot_public",
    "owner_id", "flags", "bot_user_id", "created_at", "updated_at"],
  .createTableIfNotExists "bot_tokens" ["token_hash", "application_id", "user_id", "created_at"],
  .createTableIfNotExists "user_tokens" ["token_hash", "user_id", "refresh_token_hash", "scopes",
    "expires_at", "created_at"],
  .createTableIfNotExists "dm_participants" ["channel_id", "user_id"],
  .createTableIfNotExists "pinned_messages" ["channel_id", "message_id", "pinned_at"],
  .renameTable "invites" "_invites_old",
  .createTable "invites" ["code", "space_id", "channel_id", "inviter_id", "max_uses", "uses",
    "max_age", "temporary", "created_at", "expires_at"],
  .dropTable "_invites_old",
  .addColumns "spaces" ["public"],
  .addColumns "users" ["password_hash"],
  .addColumns "users" ["is_admin"],
  .addColumns "spaces" ["slug"],
  .addColumns "emojis" ["image_path", "image_content_type", "image_size"],
  .createTableIfNotExists "soundboard_sounds" ["id", "space_id", "name", "audio_path",
    "audio_content_type", "audio_size", "volume", "creator_id", "created_at", "updated_at"],
  .addColumns "messages" ["thread_id"],
  .dropTable "sfu_nodes",
  .createTableIfNotExists "server_settings" ["id", "max_emoji_size", "max_avatar_size",
    "max_sound_size", "max_attachment_size", "max_attachments_per_message", "updated_at"],
  .addColumns "users" ["disabled", "force_password_reset"],
  .addColumns "server_settings" ["server_name", "registration_policy", "max_spaces",
    "max_members_per_space", "motd", "public_listing"],
  .addColumns "users" ["totp_secret", "totp_enabled"],
  .createTable "backup_codes" ["id", "user_id", "code_hash", "used", "created_at"],
  .createTableIfNotExists "channel_mutes" ["user_id", "channel_id", "created_at"],
  .createTableIfNotExists "reports" ["id", "space_id", "reporter_id", "target_type", "target_id",
    "channel_id", "category", "description", "status", "actioned_by", "action_taken", "created_at",
    "resolved_at"],
  .createTableIfNotExists "relationships" ["user_id", "target_user_id", "type", "created_at"],
  .createTableIfNotExists "read_states" ["user_id", "channel_id", "last_read_message_id",
    "mention_count", "updated_at"],
  .addColumns "messages" ["title"],
  .createTable "plugins" ["id", "space_id", "name", "plugin_type", "runtime", "description",
    "version", "manifest_json", "elf_blob", "bundle_blob", "icon_blob", "bundle_hash", "signed",
    "creator_id", "created_at", "updated_at"],
  .createTable "plugin_sessions" ["id", "plugin_id", "channel_id", "host_user_id", "state",
    "created_at", "updated_at"],
  .createTable "plugin_session_participants" ["session_id", "user_id", "role", "slot_index",
    "joined_at"],
  .addColumns "server_settings" ["tos_enabled", "tos_text", "tos_version", "tos_url"],
  .addColumns "channels" ["allow_anonymous_read"],
  .createTableIfNotExists "guest_tokens" ["token_hash", "space_id", "expires_at", "created_at"],
  .addColumns "spaces" ["allow_guest_access"],
  .createTableIfNotExists "audit_log" ["id", "space_id", "user_id", "action_type", "target_id",
    "target_type", "reason", "changes", "created_at"],
  .createTable "plugin_leaderboard_records" ["id", "plugin_id", "space_id", "board_id", "user_id",
    "score", "metadata", "period", "updated_at"],
  .createTableIfNotExists "space_introductions" ["space_id", "user_id", "introduced_at"],
  .addColumns "users" ["origin"],
  .createTableIfNotExists "federation_peers" ["domain", "public_key", "inbox_url", "trust_state",
    "created_at"],
  .createTableIfNotExists "federation_inbox_dedup" ["event_id", "origin", "received_at"],
  .createTableIfNotExists "federation_outbox" ["id", "target_domain", "payload", "attempts",
    "next_attempt_at", "created_at"],
  .addColumns "spaces" ["origin", "federation_enabled"],
  .addColumns "channels" ["origin"],
  .addColumns "roles" ["origin"],
  .addColumns "messages" ["origin"],
  .addColumns "members" ["origin"],
  .addColumns "emojis" ["origin"],
  .renameTable "reports" "reports_old",
  .createTable "reports" ["id", "space_id", "reporter_id", "target_type", "target_id", "channel_id",
    "category", "description", "status", "actioned_by", "action_taken", "created_at",
    "resolved_at"],
  .dropTable "reports_old",
  .createTable "attachment_deletions" ["url"],
  .createTable "voice_evictions" ["channel_id", "user_id"],
  .renameTable "reports" "reports_old",
  .createTable "reports" ["id", "space_id", "reporter_id", "target_type", "target_id", "channel_id",
    "category", "description", "status", "actioned_by", "action_taken", "created_at",
    "resolved_at"],
  .dropTable "reports_old",
  .createTable "automod_policies" ["scope_id", "policy"],
  .createTable "automod_hashes" ["scope_id", "hash", "reason"],
  .createTable "automod_uploads" ["id", "message_id", "channel_id", "space_id", "author_id",
    "filename", "content_type", "size", "hash", "status", "reason", "result", "rule_id",
    "created_at", "expires_at", "next_attempt", "attempts", "file_removed"],
  .createTable "automod_cache" ["hash", "scanner_version", "result", "expires_at"],
  .createTable "automod_events" ["id", "upload_id", "scope_id", "actor_id", "action", "details",
    "created_at"],
  .addColumns "attachments" ["content_hash"],
  .addColumns "automod_hashes" ["added_by", "created_at"],
  .createTable "message_cooldowns" ["channel_id", "user_id", "last_sent_ms"],
  .addColumns "server_settings" ["upload_requests_per_minute", "upload_bytes_per_minute"],
  .createTable "channel_roles" ["id", "channel_id", "name", "position", "permissions"],
  .createTable "channel_member_roles" ["channel_id", "space_id", "user_id", "role_id"]]

def postgresMigrations : List Ddl := [
  .createTableIfNotExists "users" ["id", "username", "display_name", "avatar", "banner",
    "accent_color", "bio", "bot", "system", "flags", "public_flags", "password_hash", "is_admin",
    "disabled", "force_password_reset", "totp_secret", "totp_enabled", "created_at", "updated_at"],
  .createTableIfNotExists "spaces" ["id", "name", "description", "icon", "banner", "splash",
    "owner_id", "verification_level", "default_notifications", "explicit_content_filter",
    "vanity_url_code", "preferred_locale", "afk_channel_id", "afk_timeout", "system_channel_id",
    "rules_channel_id", "nsfw_level", "premium_tier", "premium_subscription_count", "max_members",
    "public", "slug", "created_at", "updated_at"],
  .createTableIfNotExists "channels" ["id", "name", "description", "type", "space_id", "topic",
    "position", "parent_id", "nsfw", "rate_limit", "bitrate", "user_limit", "owner_id",
    "last_message_id", "archived", "auto_archive_after", "created_at", "updated_at"],
  .createTableIfNotExists "roles" ["id", "space_id", "name", "color", "hoist", "icon", "position",
    "permissions", "managed", "mentionable", "created_at", "updated_at"],
  .createTableIfNotExists "members" ["user_id", "space_id", "nickname", "avatar", "joined_at",
    "premium_since", "deaf", "mute", "pending", "timed_out_until"],
  .createTableIfNotExists "member_roles" ["user_id", "space_id", "role_id"],
  .createTableIfNotExists "messages" ["id", "channel_id", "author_id", "content", "space_id",
    "type", "tts", "pinned", "mention_everyone", "mentions", "mention_roles", "embeds", "reply_to",
    "flags", "webhook_id", "edited_at", "thread_id", "created_at", "updated_at"],
  .createTableIfNotExists "attachments" ["id", "message_id", "filename", "description",
    "content_type", "size", "url", "width", "height"],
  .createTableIfNotExists "reactions" ["message_id", "user_id", "emoji_id", "emoji_name",
    "created_at"],
  .createTableIfNotExists "bans" ["user_id", "space_id", "reason", "banned_by", "created_at"],
  .createTableIfNotExists "invites" ["code", "space_id", "channel_id", "inviter_id", "max_uses",
    "uses", "max_age", "temporary", "created_at", "expires_at"],
  .createTableIfNotExists "emojis" ["id", "space_id", "name", "animated", "managed", "available",
    "require_colons", "creator_id", "image_path", "image_content_type", "image_size", "created_at",
    "updated_at"],
  .createTableIfNotExists "emoji_roles" ["emoji_id", "role_id"],
  .createTableIfNotExists "applications" ["id", "name", "icon", "description", "bot_public",
    "owner_id", "flags", "bot_user_id", "created_at", "updated_at"],
  .createTableIfNotExists "bot_tokens" ["token_hash", "application_id", "user_id", "created_at"],
  .createTableIfNotExists "user_tokens" ["token_hash", "user_id", "refresh_token_hash", "scopes",
    "expires_at", "created_at"],
  .createTableIfNotExists "dm_participants" ["channel_id", "user_id"],
  .createTableIfNotExists "pinned_messages" ["channel_id", "message_id", "pinned_at"],
  .createTableIfNotExists "permission_overwrites" ["id", "channel_id", "type", "allow", "deny"],
  .createTableIfNotExists "soundboard_sounds" ["id", "space_id", "name", "audio_path",
    "audio_content_type", "audio_size", "volume", "creator_id", "created_at", "updated_at"],
  .createTableIfNotExists "server_settings" ["id", "max_emoji_size", "max_avatar_size",
    "max_sound_size", "max_attachment_size", "max_attachments_per_message", "server_name",
    "registration_policy", "max_spaces", "max_members_per_space", "motd", "public_listing",
    "updated_at"],
  .createTableIfNotExists "backup_codes" ["id", "user_id", "code_hash", "used", "created_at"],
  .createTableIfNotExists "channel_mutes" ["user_id", "channel_id", "created_at"],
  .createTableIfNotExists "reports" ["id", "space_id", "reporter_id", "target_type", "target_id",
    "channel_id", "category", "description", "status", "actioned_by", "action_taken", "created_at",
    "resolved_at"],
  .createTableIfNotExists "read_states" ["user_id", "channel_id", "last_read_message_id",
    "mention_count", "updated_at"],
  .createTableIfNotExists "relationships" ["user_id", "target_user_id", "type", "created_at"],
  .addColumns "messages" ["title"],
  .createTable "plugins" ["id", "space_id", "name", "plugin_type", "runtime", "description",
    "version", "manifest_json", "elf_blob", "bundle_blob", "icon_blob", "bundle_hash", "signed",
    "creator_id", "created_at", "updated_at"],
  .createTable "plugin_sessions" ["id", "plugin_id", "channel_id", "host_user_id", "state",
    "created_at", "updated_at"],
  .createTable "plugin_session_participants" ["session_id", "user_id", "role", "slot_index",
    "joined_at"],
  .addColumns "server_settings" ["tos_enabled", "tos_text", "tos_version", "tos_url"],
  .addColumns "channels" ["allow_anonymous_read"],
  .createTableIfNotExists "guest_tokens" ["token_hash", "space_id", "expires_at", "created_at"],
  .addColumns "spaces" ["allow_guest_access"],
  .createTableIfNotExists "audit_log" ["id", "space_id", "user_id", "action_type", "target_id",
    "target_type", "reason", "changes", "created_at"],
  .createTable "plugin_leaderboard_records" ["id", "plugin_id", "space_id", "board_id", "user_id",
    "score", "metadata", "period", "updated_at"],
  .createTableIfNotExists "space_introductions" ["space_id", "user_id", "introduced_at"],
  .addColumns "users" ["origin"],
  .createTableIfNotExists "federation_peers" ["domain", "public_key", "inbox_url", "trust_state",
    "created_at"],
  .createTableIfNotExists "federation_inbox_dedup" ["event_id", "origin", "received_at"],
  .createTableIfNotExists "federation_outbox" ["id", "target_domain", "payload", "attempts",
    "next_attempt_at", "created_at"],
  .addColumns "spaces" ["origin", "federation_enabled"],
  .addColumns "channels" ["origin"],
  .addColumns "roles" ["origin"],
  .addColumns "messages" ["origin"],
  .addColumns "members" ["origin"],
  .addColumns "emojis" ["origin"],
  .createTable "attachment_deletions" ["url"],
  .createTable "voice_evictions" ["channel_id", "user_id"],
  .createTable "automod_policies" ["scope_id", "policy"],
  .createTable "automod_hashes" ["scope_id", "hash", "reason"],
  .createTable "automod_uploads" ["id", "message_id", "channel_id", "space_id", "author_id",
    "filename", "content_type", "size", "hash", "status", "reason", "result", "rule_id",
    "created_at", "expires_at", "next_attempt", "attempts", "file_removed"],
  .createTable "automod_cache" ["hash", "scanner_version", "result", "expires_at"],
  .createTable "automod_events" ["id", "upload_id", "scope_id", "actor_id", "action", "details",
    "created_at"],
  .addColumns "attachments" ["content_hash"],
  .addColumns "automod_hashes" ["added_by", "created_at"],
  .createTable "message_cooldowns" ["channel_id", "user_id", "last_sent_ms"],
  .addColumns "server_settings" ["upload_requests_per_minute", "upload_bytes_per_minute"],
  .createTable "channel_roles" ["id", "channel_id", "name", "position", "permissions"],
  .createTable "channel_member_roles" ["channel_id", "space_id", "user_id", "role_id"]]

def sqliteSchema : Schema := (runMigrations migrations).getD []

def postgresSchema : Schema := (runMigrations postgresMigrations).getD []

def shared : Schema :=
  sqliteSchema.filterMap (fun entry =>
    (postgresSchema.columns entry.1).map (fun columns =>
      (entry.1, entry.2.filter columns.contains)))

inductive Value where
  | null
  | integer (value : Int)
  | real (shown : String)
  | text (value : String)
  | blob (bytes : List UInt8)
  deriving DecidableEq, Repr

abbrev Row := String → Value

abbrev Contents := String → List Row

structure TableDef where
  name : String
  columns : List String
  deriving DecidableEq, Repr

def tables : List TableDef := [
  ⟨"users", ["id", "username", "display_name", "discriminator", "avatar", "banner", "bio", "bot",
    "system", "flags", "public_flags", "is_admin", "mfa_enabled", "disabled", "password_hash",
    "force_password_reset", "totp_secret", "created_at"]⟩,
  ⟨"spaces", ["id", "name", "slug", "description", "icon", "banner", "owner_id", "public",
    "default_message_notifications", "explicit_content_filter", "features", "preferred_locale",
    "afk_channel_id", "afk_timeout", "system_channel_id", "system_channel_flags",
    "rules_channel_id", "max_members", "vanity_url_code", "created_at"]⟩,
  ⟨"channels", ["id", "type", "space_id", "name", "description", "topic", "position", "parent_id",
    "nsfw", "rate_limit", "bitrate", "user_limit", "owner_id", "last_message_id", "archived",
    "auto_archive_after", "created_at"]⟩,
  ⟨"roles", ["id", "space_id", "name", "color", "hoist", "position", "permissions", "mentionable",
    "created_at"]⟩,
  ⟨"members", ["user_id", "space_id", "nickname", "joined_at"]⟩,
  ⟨"member_roles", ["user_id", "space_id", "role_id"]⟩,
  ⟨"channel_roles", ["id", "channel_id", "name", "position", "permissions"]⟩,
  ⟨"channel_member_roles", ["channel_id", "space_id", "user_id", "role_id"]⟩,
  ⟨"messages", ["id", "channel_id", "space_id", "author_id", "content", "type", "tts",
    "mention_everyone", "mentions", "mention_roles", "pinned", "embeds", "reply_to", "flags",
    "webhook_id", "thread_id", "created_at", "edited_at"]⟩,
  ⟨"attachments", ["content_hash", "id", "message_id", "channel_id", "filename", "content_type",
    "size", "url", "width", "height", "created_at"]⟩,
  ⟨"reactions", ["message_id", "user_id", "emoji_name", "emoji_id", "created_at"]⟩,
  ⟨"bans", ["user_id", "space_id", "reason", "banned_by", "created_at"]⟩,
  ⟨"invites", ["code", "space_id", "channel_id", "inviter_id", "uses", "max_uses", "max_age",
    "temporary", "created_at"]⟩,
  ⟨"emojis", ["id", "space_id", "name", "creator_id", "animated", "content_type", "width", "height",
    "file_size", "created_at"]⟩,
  ⟨"emoji_roles", ["emoji_id", "role_id"]⟩,
  ⟨"applications", ["id", "name", "description", "owner_id", "bot_user_id", "created_at"]⟩,
  ⟨"bot_tokens", ["token_hash", "user_id", "created_at"]⟩,
  ⟨"user_tokens", ["token_hash", "user_id", "created_at", "expires_at"]⟩,
  ⟨"dm_participants", ["channel_id", "user_id"]⟩,
  ⟨"pinned_messages", ["channel_id", "message_id", "pinned_at"]⟩,
  ⟨"permission_overwrites", ["id", "channel_id", "type", "allow", "deny"]⟩,
  ⟨"soundboard_sounds", ["id", "space_id", "name", "emoji_id", "emoji_name", "volume",
    "content_type", "file_size", "user_id", "created_at"]⟩,
  ⟨"server_settings", ["id", "registration_enabled", "invite_only", "max_spaces_per_user",
    "max_channels_per_space", "max_message_length", "max_attachment_size",
    "max_attachments_per_message", "upload_requests_per_minute", "upload_bytes_per_minute",
    "updated_at"]⟩,
  ⟨"backup_codes", ["id", "user_id", "code_hash", "used"]⟩,
  ⟨"channel_mutes", ["user_id", "channel_id", "created_at"]⟩,
  ⟨"reports", ["id", "space_id", "reporter_id", "target_type", "target_id", "reason", "description",
    "status", "moderator_id", "resolution_note", "evidence", "created_at", "resolved_at"]⟩,
  ⟨"read_states", ["user_id", "channel_id", "last_read_message_id", "mention_count", "updated_at"]⟩,
  ⟨"relationships", ["id", "user_id", "target_user_id", "type", "created_at"]⟩,
  ⟨"message_cooldowns", ["channel_id", "user_id", "last_sent_ms"]⟩,
  ⟨"automod_policies", ["scope_id", "policy"]⟩,
  ⟨"automod_hashes", ["scope_id", "hash", "reason", "added_by", "created_at"]⟩,
  ⟨"automod_uploads", ["id", "message_id", "channel_id", "space_id", "author_id", "filename",
    "content_type", "size", "hash", "status", "reason", "result", "rule_id", "created_at",
    "expires_at", "next_attempt", "attempts", "file_removed"]⟩,
  ⟨"automod_cache", ["hash", "scanner_version", "result", "expires_at"]⟩,
  ⟨"automod_events", ["id", "upload_id", "scope_id", "actor_id", "action", "details",
    "created_at"]⟩]

inductive SqlError where
  | noSuchTable (table : String)
  | noSuchColumn (column : String)
  deriving DecidableEq, Repr

structure Postgres (δ : Type) where
  execute : String → List (Option String) → δ → Except String δ
  contents : δ → Contents

structure Progress (δ : Type) where
  target : δ
  warnings : List (String × String) := []
  deriving DecidableEq, Repr

def select (schema : Schema) (sqlite : Contents) (table : TableDef) : Except SqlError (List Row) :=
  match schema.columns table.name with
  | none => .error (.noSuchTable table.name)
  | some columns =>
    match table.columns.find? (fun column => !columns.contains column) with
    | some column => .error (.noSuchColumn column)
    | none => .ok (sqlite table.name)

def insertSql (table : TableDef) : String :=
  "INSERT INTO " ++ table.name ++ " (" ++ ", ".intercalate table.columns ++ ") VALUES (" ++
    ", ".intercalate (table.columns.map (fun _ => "?")) ++ ") ON CONFLICT DO NOTHING"

def bound : Value → Option String
  | .text value => some value
  | .integer value => some (toString value)
  | .real shown => some shown
  | .null => none
  | .blob _ => none

section

variable {δ : Type} (schema : Schema) (sqlite : Contents) (pg : Postgres δ)

def insertRow (table : TableDef) (p : Progress δ × Nat) (row : Row) : Progress δ × Nat :=
  match pg.execute (insertSql table) (table.columns.map (fun column => bound (row column)))
      p.1.target with
  | .ok target => ({ p.1 with target := target }, p.2 + 1)
  | .error e => ({ p.1 with warnings := p.1.warnings ++ [(table.name, e)] }, p.2)

def migrateTable (table : TableDef) (p : Progress δ) : Progress δ × Except SqlError Nat :=
  match select schema sqlite table with
  | .error e => (p, .error e)
  | .ok rows =>
    if rows.isEmpty then (p, .ok 0)
    else
      let done := rows.foldl (insertRow pg table) (p, 0)
      (done.1, .ok done.2)

def migrateTables : List TableDef → Nat → Progress δ → Progress δ × Except SqlError Nat
  | [], totalRows, p => (p, .ok totalRows)
  | table :: rest, totalRows, p =>
    match migrateTable schema sqlite pg table p with
    | (p, .error e) => (p, .error e)
    | (p, .ok count) => migrateTables rest (totalRows + count) p

end

def migrated {δ : Type} (sqlite : Contents) (pg : Postgres δ) (target : δ) :
    Progress δ × Except SqlError Nat :=
  migrateTables sqliteSchema sqlite pg tables 0 { target := target }

def Complete {δ : Type} (sqlite : Contents) (pg : Postgres δ) (target : δ) : Prop :=
  ∀ entry ∈ shared,
    ((pg.contents target entry.1).map (fun row => entry.2.map row)).Perm
      ((sqlite entry.1).map (fun row => entry.2.map row))

structure Lossless {δ : Type} (sqlite : Contents) (pg : Postgres δ) (target : δ) : Prop where
  succeeds : ∃ totalRows, (migrated sqlite pg target).2 = .ok totalRows
  complete : Complete sqlite pg (migrated sqlite pg target).1.target
  unwarned : (migrated sqlite pg target).1.warnings = []

section

variable {δ : Type} {schema : Schema} {sqlite : Contents} {pg : Postgres δ} {table : TableDef}
  {p : Progress δ}

def Readable (schema : Schema) (table : TableDef) : Prop :=
  ∃ columns, schema.columns table.name = some columns ∧ ∀ c ∈ table.columns, c ∈ columns

theorem select_ok_iff : (∃ rows, select schema sqlite table = .ok rows) ↔ Readable schema table := by
  rw [select, Readable]
  cases hcolumns : schema.columns table.name with
  | none => simp
  | some columns =>
    dsimp only
    cases hfind : table.columns.find? (fun column => !columns.contains column) with
    | none =>
      rw [List.find?_eq_none] at hfind
      simpa using hfind
    | some column =>
      have hmissing := List.find?_some hfind
      have hmem := List.mem_of_find?_eq_some hfind
      simp only [Bool.not_eq_true', List.contains_eq_mem, decide_eq_false_iff_not] at hmissing
      constructor
      · rintro ⟨rows, hrows⟩
        cases hrows
      · rintro ⟨all, hall, hin⟩
        cases hall
        exact absurd (hin column hmem) hmissing

theorem migrateTable_ok_iff :
    (∃ count, (migrateTable schema sqlite pg table p).2 = .ok count) ↔ Readable schema table := by
  have hreadable : (∃ rows, select schema sqlite table = .ok rows) ↔ Readable schema table :=
    select_ok_iff
  rw [← hreadable, migrateTable]
  cases hselect : select schema sqlite table with
  | error e => simp
  | ok rows =>
    dsimp only
    split
    · simp
    · simp

theorem migrateTables_ok_iff {rest : List TableDef} {totalRows : Nat} :
    (∃ total, (migrateTables schema sqlite pg rest totalRows p).2 = .ok total) ↔
      ∀ table ∈ rest, Readable schema table := by
  induction rest generalizing totalRows p with
  | nil => simp [migrateTables]
  | cons table rest ih =>
    have hfirst : (∃ count, (migrateTable schema sqlite pg table p).2 = .ok count) ↔
        Readable schema table := migrateTable_ok_iff
    rw [List.forall_mem_cons, ← hfirst, migrateTables]
    cases htable : migrateTable schema sqlite pg table p with
    | mk next outcome =>
      cases outcome with
      | error e => simp
      | ok count => simpa using ih

theorem users_not_readable (hname : table.name = "users")
    (hlisted : "discriminator" ∈ table.columns) : ¬ Readable sqliteSchema table := by
  have hmissing : (sqliteSchema.columns "users").any
      (fun columns => columns.contains "discriminator") = false := by decide +kernel
  rintro ⟨columns, hcolumns, hall⟩
  rw [hname] at hcolumns
  rw [hcolumns, Option.any_some, List.contains_iff_mem.mpr (hall _ hlisted)] at hmissing
  cases hmissing

end

theorem never_lossless {δ : Type} (sqlite : Contents) (pg : Postgres δ) (target : δ) :
    ¬ Lossless sqlite pg target := by
  intro h
  have hreadable := migrateTables_ok_iff.mp h.succeeds
  have hlisted : ∃ table ∈ tables, table.name = "users" ∧ "discriminator" ∈ table.columns := by
    decide +kernel
  obtain ⟨table, hmem, hname, hcolumn⟩ := hlisted
  exact users_not_readable hname hcolumn (hreadable table hmem)

def registered : Contents := fun table =>
  if table = "users" then [fun column =>
    if column = "id" then .text "1" else if column = "username" then .text "ann"
    else if column = "bot" then .integer 0 else .null]
  else []

def statements : Postgres (List (String × List (Option String))) where
  execute sql values target :=
    if sql.toList.contains '?' then .error "syntax error" else .ok (target ++ [(sql, values)])
  contents _ _ := []

theorem registered_lost :
    ¬ Lossless registered statements [] ∧ migrated registered statements [] =
      ({ target := [] }, .error (.noSuchColumn "discriminator")) := by
  have hrun : migrated registered statements [] =
      ({ target := [] }, .error (.noSuchColumn "discriminator")) := by
    decide +kernel
  refine ⟨fun h => ?_, hrun⟩
  obtain ⟨totalRows, hok⟩ := h.succeeds
  rw [hrun] at hok
  cases hok

end Vokusz.Migrate
