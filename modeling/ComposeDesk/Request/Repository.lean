import ComposeDesk.Json.Record

/-!
# Package repositories

Repositories that callers bring along: those used while an image is built, and
those configured inside it.
-/

namespace ComposeDesk

/-- A repository used at build time, addressed by a URL or by its identifier in the
catalog. -/
structure Repository where
  id : Option String
  baseurl : Option String
  metalink : Option String
  mirrorlist : Option String
  gpgkey : Option String
  checkGpg : Option Bool
  checkRepoGpg : Option Bool
  ignoreSsl : Option Bool
  moduleHotfixes : Option Bool
  rhsm : Bool
deriving DecidableEq, Repr

def Repository.record : Record Repository Repository :=
  Record.start Repository.mk
    |>.optional "id" .text (·.id)
    |>.optional "baseurl" .text (·.baseurl)
    |>.optional "metalink" .text (·.metalink)
    |>.optional "mirrorlist" .text (·.mirrorlist)
    |>.optional "gpgkey" .text (·.gpgkey)
    |>.optional "check_gpg" .bool (·.checkGpg)
    |>.optional "check_repo_gpg" .bool (·.checkRepoGpg)
    |>.optional "ignore_ssl" .bool (·.ignoreSsl)
    |>.optional "module_hotfixes" .bool (·.moduleHotfixes)
    |>.defaulted "rhsm" .bool false (·.rhsm)

def Repository.codec : Codec Repository :=
  Repository.record.codec "Repository"

/-- A repository configured inside the image. -/
structure CustomRepository where
  id : String
  name : Option String
  filename : Option String
  baseurl : Option (List String)
  mirrorlist : Option String
  metalink : Option String
  gpgkey : Option (List String)
  checkGpg : Option Bool
  checkRepoGpg : Option Bool
  enabled : Option Bool
  priority : Option Int32
  sslVerify : Option Bool
  moduleHotfixes : Option Bool
deriving DecidableEq, Repr

def CustomRepository.record : Record CustomRepository CustomRepository :=
  Record.start CustomRepository.mk
    |>.required "id" .text (·.id)
    |>.optional "name" .text (·.name)
    |>.optional "filename" .text (·.filename)
    |>.optional "baseurl" (.list .text) (·.baseurl)
    |>.optional "mirrorlist" .text (·.mirrorlist)
    |>.optional "metalink" .text (·.metalink)
    |>.optional "gpgkey" (.list .text) (·.gpgkey)
    |>.optional "check_gpg" .bool (·.checkGpg)
    |>.optional "check_repo_gpg" .bool (·.checkRepoGpg)
    |>.optional "enabled" .bool (·.enabled)
    |>.optional "priority" .int32 (·.priority)
    |>.optional "ssl_verify" .bool (·.sslVerify)
    |>.optional "module_hotfixes" .bool (·.moduleHotfixes)

def CustomRepository.codec : Codec CustomRepository :=
  CustomRepository.record.codec "CustomRepository"

end ComposeDesk
