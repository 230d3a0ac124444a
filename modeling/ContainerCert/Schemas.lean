import ContainerCert.Config.File
import ContainerCert.Json.Schema
import ContainerCert.Pyxis.Environment
import ContainerCert.Report.Response

/-!
# The published schemas

The schemas of the documents that the program reads and writes: configuration files, the names of
service environments, results, and the document for users. Fields are listed by name.
-/

namespace ContainerCert.Schemas

open Json (Layout Property Schema)

/-- The layout of what one check gave. -/
def entry : Layout where
  closed := false
  properties := [
    .must "description" .text,
    .must "elapsed_ms" .unsigned,
    .may "help" .text,
    .must "name" .text,
    (Property.may "reason" .text).described
      "Why the check failed or errored; empty for passing checks."]

/-- The layout of the library that made a document. -/
def library : Layout where
  closed := false
  properties := [.must "name" .text, .must "version" .text]

/-- A list of what checks gave. -/
def entries (name : String) : Property :=
  .must name (.list (.named "CheckResult"))

/-- The layout of the three lists. -/
def groups : Layout where
  closed := false
  properties := [entries "errors", entries "failed", entries "passed"]

/-- The schema of results. -/
def results : Schema where
  title := "Results"
  description := some "Everything the check engine produced for one image."
  root := .object {
    closed := false
    properties := [
      entries "errors", entries "failed", entries "passed",
      .must "passed_overall" .boolean,
      .must "platform" .text,
      .must "schema" .text,
      .must "tested_image" .text,
      (Property.must "tested_on" .text).described "RFC 3339 timestamp of when the checks ran."] }
  definitions := [("CheckResult", entry)]

/-- The schema of the document for users. -/
def response : Schema where
  title := "UserResponse"
  description := some "The JSON document handed to users (and to Pyxis) for one run."
  root := .object {
    closed := false
    properties := [
      .must "image" .text,
      .must "passed" .boolean,
      .must "platform" .text,
      .must "results" (.named "UserResults"),
      .must "test_library" (.named "TestLibrary"),
      .must "tested_on" .text] }
  definitions := [("CheckResult", entry), ("TestLibrary", library), ("UserResults", groups)]

/-- The schema of the name of a service environment. -/
def environment : Schema where
  title := "PyxisEnv"
  description := none
  root := .oneOf (Pyxis.Environment.all.map Pyxis.Environment.name)
  definitions := []

/-- The schema of configuration files. -/
def configFile : Schema where
  title := "ConfigFile"
  description := some
    ("The on-disk configuration file (\x60preflight.toml\x60).\n\n" ++
      "Every field is optional; unset fields fall through to lower-precedence sources.")
  root := .object {
    closed := true
    properties := [
      .may "artifacts" .textOrNull,
      .may "certification_project_id" .textOrNull,
      .may "docker_config" .textOrNull,
      (Property.may "includes" (.list .text)).described
        ("Include other config files. Paths are relative to this config file's directory. " ++
          "Later definitions override earlier ones key by key."),
      .may "insecure" .booleanOrNull,
      .may "junit" .booleanOrNull,
      .may "logfile" .textOrNull,
      .may "loglevel" .textOrNull,
      .may "platform" .textOrNull,
      .may "pyxis_api_token" .textOrNull,
      .may "pyxis_env" .textOrNull,
      .may "pyxis_host" .textOrNull,
      .may "response_format" .textOrNull,
      .may "submit" .booleanOrNull] }
  definitions := []

end ContainerCert.Schemas
