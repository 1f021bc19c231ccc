import Pop3Serv.Net.Server
import Pop3Serv.Logic.Blocks
import Pop3Serv.Logic.Exec
import Pop3Serv.Mail.Marks
import Pop3Serv.Mail.Numbering
import Pop3Serv.Logic.OrderedMap
import Pop3Serv.Mail.Listing
import Pop3Serv.Logic.Exclusive
import Pop3Serv.Logic.Framing
import Pop3Serv.Mail.Commit
import Pop3Serv.Mail.Login
import Pop3Serv.Mail.Lookups
import Pop3Serv.Net.Answers
import Pop3Serv.Net.Segmentation
import Pop3Serv.Mail.Representation
import Pop3Serv.Net.Retrieval
import Pop3Serv.Net.BusyLogins
import Pop3Serv.Net.OneRecord
import Pop3Serv.Net.Shutdown
import Pop3Serv.Net.Simulation
import Pop3Serv.Mail.AccountDirectory
import Pop3Serv.Mail.Totals
import Pop3Serv.Net.Accesses
import Pop3Serv.Net.ListReply
import Pop3Serv.Mail.AccountDecoding
import Pop3Serv.Net.CancelOne
import Pop3Serv.Net.Refusals
import Pop3Serv.Net.Transactions
import Pop3Serv.Mail.DefaultMailbox
import Pop3Serv.Mail.AccountLookup
import Pop3Serv.Mail.OptionNames
import Pop3Serv.Net.IdleTimer
import Pop3Serv.Net.MailStore
import Pop3Serv.Net.MailCustody
import Pop3Serv.Mail.Maildrops
import Pop3Serv.Net.Maildrops
import Pop3Serv.Net.Workers
import Pop3Serv.Mail.Accounts
import Pop3Serv.Net.Logins
import Pop3Serv.Net.Conversation
import Pop3Serv.Net.DeletingUp
import Pop3Serv.Net.Isolation
import Pop3Serv.Mail.AccountSet
