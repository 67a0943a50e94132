import LdnsSelector.ServerOptimality
import LdnsSelector.AdapterEffects
import LdnsSelector.Idempotence
import LdnsSelector.SwitchAddresses
import LdnsSelector.DestructiveFallback
import LdnsSelector.ManualSwitch
import LdnsSelector.AdapterIds
import LdnsSelector.AdapterEnumeration
import LdnsSelector.ResponseVips
import LdnsSelector.HttpBody
import LdnsSelector.PingVerdict
import LdnsSelector.UserOperations
import LdnsSelector.RefreshedLists
import LdnsSelector.AdapterJoin
import LdnsSelector.FreshenDns
import LdnsSelector.OriginalBackup
import LdnsSelector.DnsSearchOrder
import LdnsSelector.PingIndependence
import LdnsSelector.LogBuffer
import LdnsSelector.DomainName
import LdnsSelector.SocksProtocol
import LdnsSelector.QueryEnding
import LdnsSelector.QueryStops
import LdnsSelector.PingSockets
import LdnsSelector.DottedTarget
import LdnsSelector.ResponseEnding
