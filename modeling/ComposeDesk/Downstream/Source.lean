import ComposeDesk.Json.Record

/-!
# Sources

What the provisioning service knows of a source: the accounts it stands for.
-/

namespace ComposeDesk

structure AwsAccount where
  accountId : Option String
deriving DecidableEq, Repr

def AwsAccount.record : Record AwsAccount AwsAccount :=
  Record.start AwsAccount.mk
    |>.optional "account_id" .text (·.accountId)

def AwsAccount.codec : Codec AwsAccount :=
  AwsAccount.record.codec "AwsUploadInfo"

structure AzureAccount where
  tenantId : Option String
  subscriptionId : Option String
  resourceGroup : Option String
deriving DecidableEq, Repr

def AzureAccount.record : Record AzureAccount AzureAccount :=
  Record.start AzureAccount.mk
    |>.optional "tenant_id" .text (·.tenantId)
    |>.optional "subscription_id" .text (·.subscriptionId)
    |>.optional "resource_group" .text (·.resourceGroup)

def AzureAccount.codec : Codec AzureAccount :=
  AzureAccount.record.codec "AzureUploadInfo"

structure UploadInfo where
  aws : Option AwsAccount
  azure : Option AzureAccount
deriving DecidableEq, Repr

def UploadInfo.record : Record UploadInfo UploadInfo :=
  Record.start UploadInfo.mk
    |>.optional "aws" AwsAccount.codec (·.aws)
    |>.optional "azure" AzureAccount.codec (·.azure)

def UploadInfo.codec : Codec UploadInfo :=
  UploadInfo.record.codec "UploadInfo"

end ComposeDesk
